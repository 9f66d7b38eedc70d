import ODataService.Proofs.Store.Steps

/-!
# Reachable stores

The worlds that a store in memory comes to: it starts empty, its operations are called in any order
with any arguments, and between them the clock may be set to any reading. `Reachable.sound` is what
holds of all of them: every entity set has one table, every record one place in it, and every record
carries its identifier and stamps that were taken.

Requests are operations of the store one after the other, so worlds that requests lead to are
reachable as well (`Reachable.handle`).
-/

namespace ODataService

/-- A world whose store has another clock. -/
def World.withClock (w : World Store) (c : Clock) : World Store :=
  { w with store := { w.store with clock := c } }

/-- The service with the given settings on the store in memory. -/
def Service.inMemory (settings : Settings) : Service Store := ⟨settings, Store.engine⟩

namespace Store

open ODataService.Action

/-- The worlds that the store in memory comes to. -/
inductive Reachable : World Store → Prop where
  | start : Reachable { store := {} }
  | clock {w : World Store} (h : Reachable w) (c : Clock) : Reachable (w.withClock c)
  | issue {w : World Store} (h : Reachable w) : Reachable w.issue.2
  | report {w : World Store} (h : Reachable w) (level : Level) (channel : Channel)
      (message : String) : Reachable (w.report level channel message)
  | declare {w : World Store} (h : Reachable w) (t : ObjectType) :
      Reachable ((Store.declare t).exec w).2
  | insert {w : World Store} (h : Reachable w) (name : String) (data : Record) :
      Reachable ((Store.insert name data).exec w).2
  | update {w : World Store} (h : Reachable w) (name id : String) (data : Record) :
      Reachable ((Store.update name id data).exec w).2
  | delete {w : World Store} (h : Reachable w) (name id : String) :
      Reachable ((Store.delete name id).exec w).2

/-! ## Requests -/

/-- What follows a reachable world is reachable. -/
def StaysReachable (w w' : World Store) : Prop := Reachable w → Reachable w'

instance : Progress StaysReachable where
  refl _ h := h
  trans h h' hu := h' (h hu)

instance : Unobserving (Along StaysReachable) where
  look _ _ h := h
  issue _ h := h.issue
  report level channel message _ h := h.report level channel message

/-- The operations of the store lead from reachable worlds to reachable ones. -/
theorem engine_staysReachable : engine.AllKeep (Along StaysReachable) where
  toReadsKeep := engine_readsKeep _
  -- each operation that writes is one of the ways to go on
  create name data := by
    have hinsert : Keeps (Along StaysReachable) (insert name data) := fun _ h => h.insert name data
    exact .bind hinsert fun _ => .pure _
  update name id data := by
    have hupdate : Keeps (Along StaysReachable) (update name id data) :=
      fun _ h => h.update name id data
    exact .bind hupdate fun _ => .pure _
  delete name id := fun _ h => h.delete name id

/-- A request leads from reachable worlds to reachable ones. -/
theorem Reachable.handle {w : World Store} (h : Reachable w) (settings : Settings)
    (q : Http.Request) : Reachable (((Service.inMemory settings).handle q).run w).2 :=
  Service.handle_keeps (Service.inMemory settings) engine_staysReachable q w h

/-! ## Soundness -/

/-- Reachable stores come from the empty one by steps. -/
theorem Reachable.evolves {w : World Store} (h : Reachable w) : ∃ ws, Evolves {} ws w.store := by
  -- one case for each way to go on; only the store counts, so identifiers and logs do not
  induction h with
  | start => exact ⟨[], .refl⟩
  | clock _ c ih =>
    obtain ⟨ws, hevolves⟩ := ih
    exact ⟨_, hevolves.step (.same ⟨rfl, rfl, rfl⟩)⟩
  | issue _ ih => exact ih
  | report _ _ _ _ ih => exact ih
  | declare _ t ih =>
    obtain ⟨ws, hevolves⟩ := ih
    exact ⟨_, hevolves.step (step_declare _ t)⟩
  | insert _ name data ih =>
    obtain ⟨ws, hevolves⟩ := ih
    -- whether it fails or not, an insertion is a step
    rcases (hevolves.sound sound_empty).step_insert name data with
      ⟨id, w', hexec, hstep⟩ | ⟨f, w', hexec, hstep⟩
    · rw [hexec]
      exact ⟨_, hevolves.step hstep⟩
    · rw [hexec]
      exact ⟨_, hevolves.step hstep⟩
  | update _ name id data ih =>
    obtain ⟨ws, hevolves⟩ := ih
    rcases (hevolves.sound sound_empty).step_update name id data with
      ⟨old, w', -, hexec, hstep⟩ | ⟨fault, w', hexec, hstep⟩ | hexec | hexec
    -- without a record, or without the entity set, nothing has changed
    · rw [hexec]
      exact ⟨_, hevolves.step hstep⟩
    · rw [hexec]
      exact ⟨_, hevolves.step hstep⟩
    · rw [hexec]
      exact ⟨_, hevolves⟩
    · rw [hexec]
      exact ⟨_, hevolves⟩
  | delete _ name id ih =>
    obtain ⟨ws, hevolves⟩ := ih
    rcases (hevolves.sound sound_empty).step_delete name id with ⟨w', hexec, hstep⟩ | hexec | hexec
    · rw [hexec]
      exact ⟨_, hevolves.step hstep⟩
    · rw [hexec]
      exact ⟨_, hevolves⟩
    · rw [hexec]
      exact ⟨_, hevolves⟩

/-- Reachable stores are sound. -/
theorem Reachable.sound {w : World Store} (h : Reachable w) : Sound w.store := by
  obtain ⟨ws, hevolves⟩ := h.evolves
  exact hevolves.sound sound_empty

/-- No record is stored under the empty identifier. -/
theorem Reachable.record?_empty {w : World Store} (h : Reachable w) (name : String) :
    w.store.record? name "" = none := by
  induction h with
  | start => rfl
  | clock _ _ ih => exact ih
  | issue _ ih => exact ih
  | report _ _ _ _ ih => exact ih
  | declare _ t ih => exact (step_declare _ t).record?_eq_none ih (by simp)
  | insert hw other data ih =>
    rcases exec_insert other data _ with ⟨id, w', hexec, hinserted⟩ | ⟨f, w', hexec, hsame⟩
    · -- a new record gets an identifier with characters
      rw [hexec, (hw.sound.added hinserted).record?_of_ne, ih]
      exact fun heq => hinserted.named heq.2.symm
    · rw [hexec, hsame.record?_eq, ih]
  | update hw other id data ih =>
    rcases hw.sound.step_update other id data with
      ⟨old, w', -, hexec, hstep⟩ | ⟨fault, w', hexec, hstep⟩ | hexec | hexec
    · rw [hexec]
      exact hstep.record?_eq_none ih (by simp)
    · rw [hexec]
      exact hstep.record?_eq_none ih (by simp)
    · rw [hexec, ih]
    · rw [hexec, ih]
  | delete hw other id ih =>
    rcases hw.sound.step_delete other id with ⟨w', hexec, hstep⟩ | hexec | hexec
    · rw [hexec]
      exact hstep.record?_eq_none ih (by simp)
    · rw [hexec, ih]
    · rw [hexec, ih]

/-! ## A world with one record -/

/-- A world with one record, which was written when the clock was at `c`. -/
def oneRecord (c : Clock) : World Store :=
  let start : World Store := World.withClock { store := {} } c
  let declared := ((declare { name := "A" }).exec start).2
  ((insert "A" [(.str "_id", .str "1"), (.str "n", .int 1)]).exec declared).2

theorem reachable_oneRecord (c : Clock) : Reachable (oneRecord c) :=
  .insert (.declare (.clock .start _) _) _ _

/-- A clock that stands still at the last millisecond of the calendar. -/
def lastMillisecond : Clock := ⟨253402300799999000, 0⟩

/-- The record that is written in the last millisecond of the calendar. -/
def lastRecord : Record :=
  newRecord [(.str "n", .int 1)] "1" (.str "9999-12-31T23:59:59.999Z")

theorem record?_oneRecord : (oneRecord lastMillisecond).store.record? "A" "1" = some lastRecord := by
  rfl

/-- Behind the last millisecond of the calendar there is no stamp. -/
theorem stampFault?_oneRecord :
    (oneRecord lastMillisecond).store.stampFault? = some .beyondCalendar := by
  decide +kernel

end Store

end ODataService
