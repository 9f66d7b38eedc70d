import ODataService.Proofs.Bind
import ODataService.Proofs.Store.History
import ODataService.Proofs.Store.Reachable
import ODataService.Store.Values

/-!
# Runs of calls

A run is any sequence of calls of the operations of the store in memory, with any arguments and any
readings of the clock (`play`). Its history are the writes that its answers tell of (`history`):
insertions, changes and removals that succeeded, and changes that failed for want of a stamp.

`play_tells_history` is what the store is after a run, in terms of the history alone.
-/

namespace ODataService.Store

open ODataService.Action

/-- A call of an operation. Those that read the clock bring its readings. -/
inductive Call where
  | register (t : ObjectType)
  /-- Every record is added at a reading of its own. -/
  | seed (name rows : Json) (clocks : Nat → Clock)
  | find (name : Json) (q : Query)
  | get (name id : Json)
  | create (name data : Json) (clock : Clock)
  | update (name id data : Json) (clock : Clock)
  | delete (name id : Json)
  | count (name : Json) (q : Query)

/-- What a call answers. -/
inductive Answer where
  | done
  | record (r : Option Record)
  | records (rs : List Record)
  | removed (b : Bool)
  | number (n : Nat)

def setClock (c : Clock) : Run Unit := modify fun w => w.withClock c

def insertAt (name data : Json) (clock : Clock) : Run Record := do
  setClock clock
  insertValue name data

/-- Adds records in order, up to the first that fails, the first of them at the first reading. -/
def seedAt (name : Json) : List Json → (Nat → Clock) → Run (List Record)
  | [], _ => return []
  | v :: vs, clocks => do
    let r ← insertAt name v (clocks 0)
    let rs ← seedAt name vs fun i => clocks (i + 1)
    return r :: rs

def updateAt (name id data : Json) (clock : Clock) : Run (Option Record) := do
  setClock clock
  updateValue name id data

def deleteValue (name id : Json) : Run Bool := do
  let name ← result (nameOf name)
  delete name id.display

/-- Makes a call. -/
def Call.perform : Call → Run Answer
  | register t => do
    declare t
    return .done
  | seed name rows clocks => do
    let items ← usable rows.asItems
    let rs ← seedAt name items clocks
    return .records rs
  | find name q => do
    let name ← result (nameOf name)
    let rs ← Store.find name q
    return .records rs
  | get name id => do
    let name ← result (nameOf name)
    let r ← fetch name id.display
    return .record r
  | create name data clock => do
    let r ← insertAt name data clock
    return .record (some r)
  | update name id data clock => do
    let r ← updateAt name id data clock
    return .record r
  | delete name id => do
    let b ← deleteValue name id
    return .removed b
  | count name q => do
    let name ← result (nameOf name)
    let n ← Store.count name q
    return .number n

/-! ## The history of a run -/

/-- A text that a record holds. -/
def textOf (r : Record) (k : String) : String :=
  match Keyed.get? r k with
  | some (.str s) => s
  | _ => ""

/-- The stamp of a write that was answered with `r` and led to `w`. -/
def stampingOf (clock : Clock) (r : Record) (w : World Store) : Stamping :=
  ⟨clock.now, w.store.lastStamp.getD 0, textOf r "updated_at"⟩

def setOf (name : Json) : String := (nameOf name).toOption.getD ""

/-- The insertion that was answered with `r` and led to `w`. -/
def insertion (name data : Json) (clock : Clock) (r : Record) (w : World Store) : Write :=
  .inserted (setOf name) (textOf r "_id") (data.asData.toOption.getD []) (stampingOf clock r w)

/-- The change of a record with a stamp, or without one. -/
def changeOf (name id data : Json) (stamping : Option Stamping) : Write :=
  .changed (setOf name) id.display (data.asRecord.toOption.getD []) stamping

def seedWrites (name : Json) : List Json → (Nat → Clock) → World Store → List Write
  | [], _, _ => []
  | v :: vs, clocks, w =>
    match (insertAt name v (clocks 0)).exec w with
    | (.ok r, w') =>
      insertion name v (clocks 0) r w' :: seedWrites name vs (fun i => clocks (i + 1)) w'
    | (.error _, _) => []

/-- The writes that the answer to a call tells of. -/
def Call.writes (w : World Store) : Call → List Write
  | seed name rows clocks =>
    match rows.asItems with
    | .ok items => seedWrites name items clocks w
    | .error _ => []
  | create name data clock =>
    match (insertAt name data clock).exec w with
    | (.ok r, w') => [insertion name data clock r w']
    | (.error _, _) => []
  | update name id data clock =>
    match (updateAt name id data clock).exec w with
    | (.ok (some r), w') => [changeOf name id data (some (stampingOf clock r w'))]
    | (.error (.noStamp _), _) => [changeOf name id data none]
    | _ => []
  | delete name id =>
    match (deleteValue name id).exec w with
    | (.ok true, _) => [.removed (setOf name) id.display]
    | _ => []
  | _ => []

/-- Makes calls one after the other, whether they succeed or fail. -/
def play (w : World Store) : List Call → World Store
  | [] => w
  | c :: cs => play (c.perform.exec w).2 cs

/-- The writes of calls that are made one after the other. -/
def history (w : World Store) : List Call → List Write
  | [] => []
  | c :: cs => c.writes w ++ history (c.perform.exec w).2 cs

/-- A store without object types. -/
def blank : World Store := { store := {} }

/-! ## Calls as steps -/

/-- A known result is handed on. -/
theorem exec_result_ok {α : Type} {x : Except Failure α} {a : α} (h : x = .ok a) (w : World Store) :
    (result x).exec w = (.ok a, w) := by
  rw [h]
  rfl

/-- A known failure leaves the world as it is. -/
theorem exec_result_error {α : Type} {x : Except Failure α} {f : Failure} (h : x = .error f)
    (w : World Store) : (result x).exec w = (.error f, w) := by
  rw [h]
  rfl

/-- A value of the right kind is handed on. -/
theorem exec_usable_ok {α : Type} {x : Except ValueFault α} {a : α} (h : x = .ok a)
    (w : World Store) : (usable x).exec w = (.ok a, w) := by
  rw [h]
  rfl

/-- A value of the wrong kind fails and leaves the world as it is. -/
theorem exec_usable_error {α : Type} {x : Except ValueFault α} {f : ValueFault} (h : x = .error f)
    (w : World Store) : (usable x).exec w = (.error (.value f), w) := by
  rw [h]
  rfl

theorem exec_setClock (c : Clock) (w : World Store) :
    (setClock c).exec w = (.ok (), w.withClock c) := rfl

/-- The entity set is the one that the value names. -/
theorem setOf_eq {name : Json} {set : String} (h : nameOf name = .ok set) : setOf name = set := by
  rw [setOf, h]
  rfl

/-- Setting the clock writes nothing. -/
theorem evolves_withClock (w : World Store) (c : Clock) :
    Evolves w.store [] (w.withClock c).store :=
  Evolves.refl.step (.same ⟨rfl, rfl, rfl⟩)

section calls

variable {w : World Store}

/-- Adding what a value holds is adding a record, or it fails at once. -/
theorem exec_insertValue (name data : Json) (w : World Store) :
    (∃ set members, nameOf name = .ok set ∧ data.asData = .ok members ∧
        (insertValue name data).exec w = (insert set members).exec w) ∨
      ∃ f, (insertValue name data).exec w = (.error f, w) := by
  rw [insertValue]
  -- the data are looked at first, then the name
  cases hdata : data.asData with
  | error f => exact .inr ⟨_, exec_bind_error (exec_usable_error rfl w)⟩
  | ok members =>
    rw [exec_bind_ok (exec_usable_ok rfl w)]
    cases hname : nameOf name with
    | error f => exact .inr ⟨f, exec_bind_error (exec_result_error rfl w)⟩
    | ok set => exact .inl ⟨set, members, rfl, rfl, exec_bind_ok (exec_result_ok rfl w)⟩

/-- Changing properties to those of a value is changing them to those of a record, or it finds no
record, or it fails at once. -/
theorem exec_updateValue (name id data : Json) (w : World Store) :
    (∃ set members, nameOf name = .ok set ∧ data.asRecord = .ok members ∧
        (updateValue name id data).exec w = (update set id.display members).exec w) ∨
      (updateValue name id data).exec w = (.ok none, w) ∨
      ∃ f, (∀ fault, f ≠ .noStamp fault) ∧ (updateValue name id data).exec w = (.error f, w) := by
  rw [updateValue]
  cases hname : nameOf name with
  | error f =>
    refine .inr (.inr ⟨f, ?_, exec_bind_error (exec_result_error rfl w)⟩)
    rintro fault rfl
    -- names fail for other reasons
    unfold nameOf at hname
    split at hname
    · simp at hname
    · split at hname <;> simp at hname
  | ok set =>
    rw [exec_bind_ok (exec_result_ok rfl w)]
    -- behind the name come the type, the record and the data, each of which may end the call
    cases hd : w.store.declares set with
    | false =>
      have hfetch : (fetch set id.display).exec w = (.error (.unknownType set), w) := by
        rw [fetch, exec_bind_error (exec_tableOf_undeclared hd)]
      exact .inr (.inr ⟨_, by simp, exec_bind_error hfetch⟩)
    | true =>
      rw [exec_bind_ok (exec_fetch hd)]
      cases w.store.record? set id.display with
      | none => exact .inr (.inl rfl)
      | some old =>
        cases hdata : data.asRecord with
        | error f => exact .inr (.inr ⟨_, by simp, exec_bind_error (exec_usable_error rfl w)⟩)
        | ok members => exact .inl ⟨set, members, rfl, rfl, exec_bind_ok (exec_usable_ok rfl w)⟩

/-- The text of a member is the text that the record holds. -/
theorem textOf_eq {r : Record} {k s : String} (h : Keyed.get? r k = some (.str s)) :
    textOf r k = s := by
  rw [textOf, h]

/-- The stamp that an answer tells of is the one that was taken. -/
theorem stampingOf_eq {w w' : World Store} {r : Record} (clock : Clock)
    (hlast : w'.store.lastStamp = some (w.withClock clock).store.nextStamp)
    (htext : Keyed.get? r "updated_at" = some (w.withClock clock).store.stamp) :
    stampingOf clock r w' = (w.withClock clock).store.taking := by
  rw [stampingOf, hlast, textOf_eq htext]
  rfl

/-- An insertion that is answered is the write that the answer tells of; another one is none. -/
theorem Sound.evolves_insertAt (hs : Sound w.store) (name data : Json) (clock : Clock) :
    (∃ r w', (insertAt name data clock).exec w = (.ok r, w') ∧
        Evolves w.store [insertion name data clock r w'] w'.store) ∨
      ∃ f w', (insertAt name data clock).exec w = (.error f, w') ∧ Evolves w.store [] w'.store := by
  have hclock := evolves_withClock w clock
  rw [insertAt, exec_bind_ok (exec_setClock clock w)]
  rcases exec_insertValue name data (w.withClock clock) with
    ⟨set, members, hname, hmembers, hexec⟩ | ⟨f, hexec⟩
  · rw [hexec]
    rcases (hclock.sound hs).step_insert set members with
      ⟨id, w', hinsert, hstep⟩ | ⟨f, w', hinsert, hstep⟩
    · refine .inl ⟨_, w', hinsert, ?_⟩
      have hget : ∀ k ∈ systemFields, _ := fun k hk =>
        get?_newRecord hk members id (w.withClock clock).store.stamp
      -- a write that was answered has taken a stamp
      obtain ⟨hnone, -⟩ | ⟨-, -, hlast⟩ := hstep.stamped
      · simp [Write.stamping?] at hnone
      · have hwrite : insertion name data clock
            (newRecord members id (w.withClock clock).store.stamp) w' =
              .inserted set id members (w.withClock clock).store.taking := by
          rw [insertion, setOf_eq hname, hmembers, textOf_eq (hget "_id" (by decide)),
            stampingOf_eq clock hlast (hget "updated_at" (by decide))]
          rfl
        rw [hwrite]
        exact hclock.step hstep
    · exact .inr ⟨f, w', hinsert, hclock.step hstep⟩
  -- a call that fails at once has only set the clock
  · exact .inr ⟨f, _, hexec, hclock⟩

/-- An update leads to where the write leads that its answer tells of, if it tells of one. -/
theorem Sound.evolves_updateAt (hs : Sound w.store) (name id data : Json) (clock : Clock) :
    Evolves w.store ((Call.update name id data clock).writes w)
      ((updateAt name id data clock).exec w).2.store := by
  have hclock := evolves_withClock w clock
  have hexec : (updateAt name id data clock).exec w =
      (updateValue name id data).exec (w.withClock clock) := by
    rw [updateAt, exec_bind_ok (exec_setClock clock w)]
  rw [Call.writes, hexec]
  -- the arguments are usable, no record is there, or the call fails at once
  rcases exec_updateValue name id data (w.withClock clock) with
    ⟨set, members, hname, hmembers, hupdate⟩ | hupdate | ⟨f, hf, hupdate⟩
  · have hchange : ∀ stamping, changeOf name id data stamping =
        .changed set id.display members stamping := by
      intro stamping
      rw [changeOf, setOf_eq hname, hmembers]
      rfl
    rw [hupdate]
    rcases (hclock.sound hs).step_update set id.display members with
      ⟨old, w', -, hstep', hstep⟩ | ⟨fault, w', hstep', hstep⟩ | hstep' | hstep'
    -- the record was changed, with a stamp or without; what comes behind wrote nothing
    · rw [hstep']
      obtain ⟨hnone, -⟩ | ⟨-, -, hlast⟩ := hstep.stamped
      · simp [Write.stamping?] at hnone
      · dsimp only
        rw [hchange, stampingOf_eq clock hlast (get?_changedRecord_updated old members _)]
        exact hclock.step hstep
    · rw [hstep']
      dsimp only
      rw [hchange]
      exact hclock.step hstep
    · rw [hstep']
      exact hclock
    · rw [hstep']
      exact hclock
  · rw [hupdate]
    exact hclock
  · rw [hupdate]
    -- a failure for want of a stamp is that of a change, and none was made
    cases f with
    | noStamp fault => exact absurd rfl (hf fault)
    | _ => exact hclock

/-- A removal leads to where the write leads that its answer tells of. -/
theorem Sound.evolves_deleteValue (hs : Sound w.store) (name id : Json) :
    Evolves w.store ((Call.delete name id).writes w) ((deleteValue name id).exec w).2.store := by
  rw [Call.writes]
  cases hname : nameOf name with
  | error f =>
    rw [deleteValue, exec_bind_error (exec_result_error hname w)]
    exact .refl
  | ok set =>
    rw [deleteValue, exec_bind_ok (exec_result_ok hname w)]
    -- a record was removed, none was there, or no such set
    rcases hs.step_delete set id.display with ⟨w', hexec, hstep⟩ | hexec | hexec
    · rw [hexec]
      dsimp only
      rw [setOf_eq hname]
      exact hstep.evolves
    · rw [hexec]
      exact .refl
    · rw [hexec]
      exact .refl

/-- A seeding leads to where the insertions lead of its first records, up to one that fails. -/
theorem Sound.evolves_seedAt (hs : Sound w.store) (name : Json) (items : List Json)
    (clocks : Nat → Clock) :
    Evolves w.store (seedWrites name items clocks w)
      ((seedAt name items clocks).exec w).2.store := by
  -- item by item, until one of them fails
  induction items generalizing w clocks with
  | nil => exact .refl
  | cons v vs ih =>
    rw [seedWrites, seedAt]
    rcases hs.evolves_insertAt name v (clocks 0) with
      ⟨r, w', hexec, hfirst⟩ | ⟨f, w', hexec, hfirst⟩
    · rw [hexec, exec_bind_ok hexec]
      rw [exec_bind_pure]
      exact hfirst.trans (ih (hfirst.sound hs) fun i => clocks (i + 1))
    · rw [hexec, exec_bind_error hexec]
      exact hfirst

/-- Asking for a table leaves the world as it is. -/
theorem exec_tableOf_world (name : String) (w : World Store) : ((tableOf name).exec w).2 = w := by
  cases hd : w.store.declares name with
  | false => rw [exec_tableOf_undeclared hd]
  | true => rw [exec_tableOf hd]

/-- Reading the table of an entity set that a value names leaves the world as it is. -/
theorem exec_reading_world {α β : Type} (name : Json) (f : Table → α) (g : α → β)
    (w : World Store) :
    ((do
      let name ← result (nameOf name)
      let a ← (do
        let t ← tableOf name
        return f t : Run α)
      return g a : Run β).exec w).2 = w := by
  cases hname : nameOf name with
  | error fault => rw [exec_bind_error (exec_result_error rfl w)]
  | ok set =>
    rw [exec_bind_ok (exec_result_ok rfl w), exec_bind_pure, exec_bind_pure]
    exact exec_tableOf_world set w

/-- A call leads to where the writes lead that its answer tells of. -/
theorem Sound.evolves_perform (hs : Sound w.store) (c : Call) :
    Evolves w.store (c.writes w) (c.perform.exec w).2.store := by
  -- calls that read leave the world, and the others are the steps above
  cases c with
  | register t =>
    rw [Call.perform, exec_bind_pure]
    exact (step_declare w t).evolves
  | seed name rows clocks =>
    rw [Call.perform, Call.writes]
    -- rows that are no list add nothing
    cases hrows : rows.asItems with
    | error f =>
      rw [exec_bind_error (exec_usable_error rfl w)]
      exact .refl
    | ok items =>
      rw [exec_bind_ok (exec_usable_ok rfl w), exec_bind_pure]
      exact hs.evolves_seedAt name items clocks
  | find name q =>
    have hworld : ((Call.find name q).perform.exec w).2 = w :=
      exec_reading_world name (fun t => q.run t.values) Answer.records w
    rw [hworld]
    exact .refl
  | get name id =>
    have hworld : ((Call.get name id).perform.exec w).2 = w :=
      exec_reading_world name (fun t => Assoc.get? t id.display) Answer.record w
    rw [hworld]
    exact .refl
  | create name data clock =>
    rw [Call.perform, exec_bind_pure, Call.writes]
    rcases hs.evolves_insertAt name data clock with ⟨r, w', hexec, h⟩ | ⟨f, w', hexec, h⟩
    · rw [hexec]
      exact h
    · rw [hexec]
      exact h
  | update name id data clock =>
    rw [Call.perform, exec_bind_pure]
    exact hs.evolves_updateAt name id data clock
  | delete name id =>
    rw [Call.perform, exec_bind_pure]
    exact hs.evolves_deleteValue name id
  | count name q =>
    have hworld : ((Call.count name q).perform.exec w).2 = w :=
      exec_reading_world name (fun t => (q.forCount.run t.values).length) Answer.number w
    rw [hworld]
    exact .refl

/-- A run leads to where its history leads. -/
theorem Sound.evolves_play (hs : Sound w.store) (calls : List Call) :
    Evolves w.store (history w calls) (play w calls).store := by
  induction calls generalizing w with
  | nil => exact .refl
  | cons c cs ih =>
    have hfirst := hs.evolves_perform c
    exact hfirst.trans (ih (hfirst.sound hs))

/-- A run from a store without object types leads to where its history leads. -/
theorem evolves_run (calls : List Call) :
    Evolves {} (history blank calls) (play blank calls).store :=
  Sound.evolves_play (w := blank) sound_empty calls

end calls

/-- Readings of a clock, the first of them given. -/
def startingWith (first : Clock) (rest : Nat → Clock) : Nat → Clock
  | 0 => first
  | i + 1 => rest i

/-- Seeding by the clock of the store is a call, with the readings that this clock gives. -/
theorem exists_seedAt_eq (name : Json) (items : List Json) (w : World Store) :
    ∃ clocks, (seedAt name items clocks).exec w = (items.mapM (insertValue name)).exec w := by
  induction items generalizing w with
  | nil => exact ⟨fun _ => w.store.clock, by rw [List.mapM_nil]; rfl⟩
  | cons v vs ih =>
    -- the first record is added at what the clock shows, and the others at what it shows then
    obtain ⟨clocks, hrest⟩ := ih ((insertValue name v).exec w).2
    refine ⟨startingWith w.store.clock clocks, ?_⟩
    have hseed : seedAt name (v :: vs) (startingWith w.store.clock clocks) = (do
        let r ← insertAt name v w.store.clock
        let rs ← seedAt name vs clocks
        return r :: rs) := rfl
    -- setting the clock to what it shows changes nothing
    have hfirst : (insertAt name v w.store.clock).exec w = (insertValue name v).exec w := by
      rw [insertAt, exec_bind_ok (exec_setClock w.store.clock w)]
      rfl
    rw [hseed, List.mapM_cons, exec_bind, exec_bind, hfirst]
    rcases hvalue : (insertValue name v).exec w with ⟨r | r, w'⟩
    · rfl
    · rw [hvalue] at hrest
      dsimp only
      rw [exec_bind_pure, exec_bind_pure, ← hrest]

/-! ## What a run leaves behind -/

/-- A query that asks for nothing is answered with all records. -/
theorem run_empty (rows : List Record) : Query.run {} rows = rows := by
  have hall : rows.filter (Query.selects {}) = rows := List.filter_eq_self.mpr fun r _ => rfl
  have hproject : Query.project none = (id : Record → Record) := rfl
  rw [Query.run, hall]
  simp [Query.order, Query.page, hproject]

section answers

variable {w : World Store} {name : Json} {set : String} (hname : nameOf name = .ok set)

include hname

/-- Getting answers with the record that is found. -/
theorem perform_get (hd : w.store.declares set = true) (id : Json) :
    (Call.get name id).perform.exec w = (.ok (.record (w.store.record? set id.display)), w) := by
  rw [Call.perform, exec_bind_ok (exec_result_ok hname w), exec_bind_pure, exec_fetch hd]
  rfl

/-- A query that asks for nothing answers with all records. -/
theorem perform_find (hd : w.store.declares set = true) :
    (Call.find name {}).perform.exec w = (.ok (.records (w.store.rows set).values), w) := by
  rw [Call.perform, exec_bind_ok (exec_result_ok hname w), exec_bind_pure, Store.find,
    exec_bind_pure, exec_tableOf hd]
  exact congrArg (fun rs => (Except.ok (Answer.records rs), w)) (run_empty _)

/-- Changing a record that is not there answers with nothing. -/
theorem perform_update_missing (hd : w.store.declares set = true) {id : Json}
    (hr : w.store.record? set id.display = none) (data : Json) (clock : Clock) :
    (Call.update name id data clock).perform.exec w =
      (.ok (.record none), w.withClock clock) := by
  -- the record is looked up before the data are looked at
  have hfetch :
      (fetch set id.display).exec (w.withClock clock) = (.ok none, w.withClock clock) := by
    rw [exec_fetch (w := w.withClock clock) hd]
    exact congrArg (fun r => (Except.ok r, w.withClock clock)) hr
  rw [Call.perform, exec_bind_pure, updateAt, exec_bind_ok (exec_setClock clock w), updateValue,
    exec_bind_ok (exec_result_ok hname _), exec_bind_ok hfetch]
  rfl

/-- Removing a record that is not there removes nothing. -/
theorem perform_delete_missing (hd : w.store.declares set = true) {id : Json}
    (hr : w.store.record? set id.display = none) :
    (Call.delete name id).perform.exec w = (.ok (.removed false), w) := by
  rw [Call.perform, exec_bind_pure, deleteValue, exec_bind_ok (exec_result_ok hname w),
    exec_delete_missing hd hr]
  rfl

/-- An entity set that is not declared is unknown to all operations. -/
theorem perform_undeclared (hd : w.store.declares set = false) (id data : Json) (clock : Clock) :
    (Call.get name id).perform.exec w = (.error (.unknownType set), w) ∧
      (Call.update name id data clock).perform.exec w =
        (.error (.unknownType set), w.withClock clock) ∧
      (Call.delete name id).perform.exec w = (.error (.unknownType set), w) ∧
      (Call.find name {}).perform.exec w = (.error (.unknownType set), w) := by
  -- each call asks for the table first
  refine ⟨?_, ?_, ?_, ?_⟩
  · rw [Call.perform, exec_bind_ok (exec_result_ok hname w), exec_bind_pure, fetch, exec_bind_pure,
      exec_tableOf_undeclared hd]
    rfl
  · have hfetch : (fetch set id.display).exec (w.withClock clock) =
        (.error (.unknownType set), w.withClock clock) := by
      rw [fetch, exec_bind_pure, exec_tableOf_undeclared (w := w.withClock clock) hd]
      rfl
    rw [Call.perform, exec_bind_pure, updateAt, exec_bind_ok (exec_setClock clock w), updateValue,
      exec_bind_ok (exec_result_ok hname _), exec_bind_error hfetch]
    rfl
  · rw [Call.perform, exec_bind_pure, deleteValue, exec_bind_ok (exec_result_ok hname w),
      exec_delete_undeclared hd]
    rfl
  · rw [Call.perform, exec_bind_ok (exec_result_ok hname w), exec_bind_pure, Store.find,
      exec_bind_pure, exec_tableOf_undeclared hd]
    rfl

end answers

/-- Of the calls that fail only two write: a seeding, whose first records are added, and an update
that finds no stamp. -/
theorem Call.writes_of_error {w w' : World Store} {c : Call} {f : Failure}
    (h : c.perform.exec w = (.error f, w')) (hwrites : c.writes w ≠ []) :
    (∃ name rows clocks, c = .seed name rows clocks) ∨
      ∃ name id data clock fault, c = .update name id data clock ∧ f = .noStamp fault := by
  -- all other calls that fail tell of no write
  cases c with
  | seed name rows clocks => exact .inl ⟨name, rows, clocks, rfl⟩
  | create name data clock =>
    rw [perform, exec_bind_pure] at h
    rw [writes] at hwrites
    split at hwrites
    · next hexec =>
      rw [hexec] at h
      simp [Except.map] at h
    · exact absurd rfl hwrites
  | update name id data clock =>
    rw [perform, exec_bind_pure] at h
    rw [writes] at hwrites
    split at hwrites
    · next hexec =>
      rw [hexec] at h
      simp [Except.map] at h
    -- the stamp was missing when the properties had been merged
    · next fault _ hexec =>
      rw [hexec] at h
      exact .inr ⟨name, id, data, clock, fault, rfl, (Except.error.inj (Prod.mk.inj h).1).symm⟩
    · exact absurd rfl hwrites
  | delete name id =>
    rw [perform, exec_bind_pure] at h
    rw [writes] at hwrites
    split at hwrites
    · next hexec =>
      rw [hexec] at h
      simp [Except.map] at h
    · exact absurd rfl hwrites
  | register t => exact absurd rfl hwrites
  | find name q => exact absurd rfl hwrites
  | get name id => exact absurd rfl hwrites
  | count name q => exact absurd rfl hwrites

/-- After any run of calls the store is what the history of the run tells. A record lives when its
last insertion was not followed by a removal, and `get` answers with what was inserted and with what
it was changed to since; where none lives, `get` and `update` find nothing and `delete` removes
nothing. A query that asks for nothing is answered with the records that live, in the order of their
insertion.

Calls that write nothing to a record leave it as it is. Of the calls that fail only a seeding and an
update that finds no stamp write: the first records of the one are added, and the properties of the
other are changed without a new time of the last write. -/
theorem play_tells_history (calls : List Call) {name : Json} {set : String}
    (hname : nameOf name = .ok set) :
    let w := play blank calls
    let ws := history blank calls
    (w.store.declares set = true →
      (∀ id l, Alive set id.display ws l →
        (Call.get name id).perform.exec w = (.ok (.record (some (l.record id.display))), w)) ∧
      (∀ id, (∀ l, ¬ Alive set id.display ws l) →
        (Call.get name id).perform.exec w = (.ok (.record none), w) ∧
        (∀ data clock, (Call.update name id data clock).perform.exec w =
          (.ok (.record none), w.withClock clock)) ∧
        (Call.delete name id).perform.exec w = (.ok (.removed false), w)) ∧
      (Call.find name {}).perform.exec w =
        (.ok (.records ((lives set ws).map fun e => e.2.record e.1)), w)) ∧
    (w.store.declares set = false → ∀ id data clock,
      (Call.get name id).perform.exec w = (.error (.unknownType set), w) ∧
      (Call.update name id data clock).perform.exec w =
        (.error (.unknownType set), w.withClock clock) ∧
      (Call.delete name id).perform.exec w = (.error (.unknownType set), w) ∧
      (Call.find name {}).perform.exec w = (.error (.unknownType set), w)) ∧
    (∀ (c : Call) (key : String), (∀ u ∈ c.writes w, ¬ u.Concerns set key) →
      (c.perform.exec w).2.store.record? set key = w.store.record? set key) ∧
    (∀ (c : Call) (f : Failure) (w' : World Store), c.perform.exec w = (.error f, w') →
      c.writes w ≠ [] →
      (∃ name rows clocks, c = .seed name rows clocks) ∨
        ∃ name id data clock fault, c = .update name id data clock ∧ f = .noStamp fault) := by
  intro w ws
  -- the store has evolved by the writes of the history
  have hevolves : Evolves {} ws w.store := evolves_run calls
  refine ⟨fun hd => ⟨fun id l halive => ?_, fun id hdead => ?_, ?_⟩, perform_undeclared hname,
    fun c key hother => ?_, fun _ _ _ => Call.writes_of_error⟩
  · rw [perform_get hname hd, hevolves.record?_of_alive halive]
  · have hnone := hevolves.record?_of_not_alive hdead
    refine ⟨?_, perform_update_missing hname hd hnone, perform_delete_missing hname hd hnone⟩
    rw [perform_get hname hd, hnone]
  -- the rows are the records of those alive, in the order of their insertion
  · have hvalues : (recorded set ws).values = (lives set ws).map fun e => e.2.record e.1 := by
      rw [recorded, Assoc.values, List.map_map]
      rfl
    rw [perform_find hname hd, hevolves.rows_eq, hvalues]
  · exact ((hevolves.sound sound_empty).evolves_perform c).record?_eq hother

/-- A record that is written in the last millisecond of the calendar and changed afterwards. -/
def lateChange : List Call :=
  [.register { name := "A" },
    .create (.str "A") (.obj [(.str "_id", .str "1"), (.str "n", .int 1)]) lastMillisecond,
    .update (.str "A") (.str "1") (.obj [(.str "n", .int 2)]) lastMillisecond]

def lateStamping : Stamping := ⟨253402300799999000, 253402300799999, "9999-12-31T23:59:59.999Z"⟩

def lateLife : Life :=
  ⟨[(.str "_id", .str "1"), (.str "n", .int 1)], lateStamping, [⟨[(.str "n", .int 2)], none⟩]⟩

/-- The record of the late change lives, with a change that has no stamp. -/
theorem alive_lateChange : Alive "A" "1" (history blank lateChange) lateLife := by
  refine ⟨[], [(.str "_id", .str "1"), (.str "n", .int 1)], lateStamping,
    [.changed "A" "1" [(.str "n", .int 2)] none], ?_, ?_, ?_⟩
  · rfl
  · rintro u hu
    obtain rfl := List.mem_singleton.mp hu
    rfl
  · rfl

/-- A change that finds no stamp fails, and the record has the changed property nevertheless. -/
theorem play_tells_history_late_change :
    nameOf (.str "A") = .ok "A" ∧ (play blank lateChange).store.declares "A" = true ∧
      Alive "A" "1" (history blank lateChange) lateLife ∧
      (Call.get (.str "A") (.str "1")).perform.exec (play blank lateChange) =
        (.ok (.record (some [(.str "n", .int 2), (.str "_id", .str "1"), (.str "id", .str "1"),
          (.str "created_at", .str "9999-12-31T23:59:59.999Z"),
          (.str "updated_at", .str "9999-12-31T23:59:59.999Z")])), play blank lateChange) := by
  have hdeclares : (play blank lateChange).store.declares "A" = true := by rfl
  have hname : nameOf (.str "A") = .ok "A" := rfl
  have htold := (play_tells_history lateChange hname).1 hdeclares
  exact ⟨rfl, hdeclares, alive_lateChange, htold.1 (.str "1") lateLife alive_lateChange⟩

end ODataService.Store
