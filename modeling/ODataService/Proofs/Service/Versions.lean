import ODataService.Proofs.Service.Outcome

/-!
# Versions of records along a run

A run is a series of requests that are answered one after the other, with the
clock at any reading when a request comes. The version of a record is the
stamp of its last write. Along a run a version stays the current one until a
write to the record succeeds, and from then on it is stale for good: stamps
increase, so neither a change nor a removal with a new creation brings an old
version back.

* `Run.current` — no write to the record, so the version is still current;
* `Run.stale_of_writes` — a write to the record, so the version is stale.
-/

namespace ODataService

namespace Store

variable {s s' : Store} {set key : String} {u : Int}

/-- The stamp `u` was taken. -/
def Taken (s : Store) (u : Int) : Prop := ∃ last, s.lastStamp = some last ∧ u ≤ last

/-- The record is there, and its last write took the stamp `u`. -/
def Current (s : Store) (set key : String) (u : Int) : Prop :=
  ∃ r created, s.record? set key = some r ∧ Kept s.lastStamp key r created u

/-- The stamp `u` was taken, and the record is gone or was written later. -/
structure Stale (s : Store) (set key : String) (u : Int) : Prop where
  taken : s.Taken u
  later : ∀ r, s.record? set key = some r →
    ∃ created v, Kept s.lastStamp key r created v ∧ u < v

/-- The last stamp is the same, or one more stamp was taken. -/
def Advances (s s' : Store) : Prop :=
  s'.lastStamp = s.lastStamp ∨ (s.stampFault? = none ∧ s'.lastStamp = some s.nextStamp)

/-- A current stamp was taken. -/
theorem Current.taken (h : s.Current set key u) : s.Taken u := by
  obtain ⟨r, created, -, hKept⟩ := h
  exact hKept.taken

/-- A record keeps its stamps in order as the clock advances. -/
theorem Advances.kept (h : Advances s s') {r : Record} {created updated : Int}
    (hKept : Kept s.lastStamp key r created updated) :
    Kept s'.lastStamp key r created updated := by
  rcases h with hLast | ⟨hStamp, hLast⟩
  · rw [hLast]
    exact hKept
  · rw [hLast]
    exact hKept.later hStamp

/-- A stamp that was taken stays so as the clock advances. -/
theorem Advances.taken (h : Advances s s') (hTaken : s.Taken u) : s'.Taken u := by
  obtain ⟨last, hLast, hle⟩ := hTaken
  rcases h with hSame | ⟨hStamp, hNext⟩
  · exact ⟨last, hSame ▸ hLast, hle⟩
  · have := (nextStamp_spec hStamp).2 last hLast
    exact ⟨s.nextStamp, hNext, by omega⟩

/-! ## Steps -/

/-- Nothing has happened to the version of a record. -/
structure SameVersion (s s' : Store) (set key : String) : Prop where
  current : ∀ u, s.Current set key u → s'.Current set key u
  stale : ∀ u, s.Stale set key u → s'.Stale set key u

/-- A record that is untouched is at the same version. -/
theorem sameVersion_of_record?_eq (hAdvances : Advances s s')
    (hRecord : s'.record? set key = s.record? set key) : SameVersion s s' set key where
  -- what was current stays so, and what was stale too
  current := by
    rintro u ⟨r, created, hOld, hKept⟩
    exact ⟨r, created, hRecord.trans hOld, hAdvances.kept hKept⟩
  stale := by
    intro u h
    refine ⟨hAdvances.taken h.taken, fun r hr => ?_⟩
    obtain ⟨created, v, hKept, hLater⟩ := h.later r (hRecord ▸ hr)
    exact ⟨created, v, hAdvances.kept hKept, hLater⟩

/-- Merging properties into a record without a stamp leaves its version. -/
theorem sameVersion_of_merged {old data : Record} (hLast : s'.lastStamp = s.lastStamp)
    (h : s.Changed s' set key old (mergedRecord old data)) : SameVersion s s' set key where
  -- the merged properties carry no stamp, so the record has those it had
  current := by
    rintro u ⟨r, created, hOld, hKept⟩
    obtain rfl : old = r := Option.some.inj (h.rows.get?_old.symm.trans hOld)
    exact ⟨_, created, h.rows.get?_self, hLast ▸ hKept.merged data⟩
  stale := by
    intro u hStale
    obtain ⟨last, hTaken⟩ := hStale.taken
    refine ⟨⟨last, hLast ▸ hTaken⟩, fun r hr => ?_⟩
    obtain rfl : mergedRecord old data = r := Option.some.inj (h.rows.get?_self.symm.trans hr)
    obtain ⟨created, v, hKept, hLater⟩ := hStale.later old h.rows.get?_old
    exact ⟨created, v, hLast ▸ hKept.merged data, hLater⟩

/-- A write with a new stamp makes every stamp that was taken stale. -/
theorem stale_of_stamped {r : Record} {created : Int} (hStamp : s.stampFault? = none)
    (hLast : s'.lastStamp = some s.nextStamp) (hRecord : s'.record? set key = some r)
    (hKept : Kept (some s.nextStamp) key r created s.nextStamp) (hTaken : s.Taken u) :
    s'.Stale set key u := by
  obtain ⟨last, hOld, hle⟩ := hTaken
  have hLater := (nextStamp_spec hStamp).2 last hOld
  refine ⟨⟨s.nextStamp, hLast, by omega⟩, fun r' hr => ?_⟩
  obtain rfl : r = r' := Option.some.inj (hRecord.symm.trans hr)
  exact ⟨created, s.nextStamp, hLast ▸ hKept, by omega⟩

/-- A removal does so as well. -/
theorem stale_of_removed (hLast : s'.lastStamp = s.lastStamp)
    (hRecord : s'.record? set key = none) (hTaken : s.Taken u) : s'.Stale set key u := by
  obtain ⟨last, hOld⟩ := hTaken
  refine ⟨⟨last, hLast ▸ hOld⟩, fun r hr => ?_⟩
  rw [hRecord] at hr
  contradiction

end Store

namespace Service

variable {settings : Settings} {q : Http.Request} {r : Http.Response} {s s' : Store}
  {w w' w'' : World Store} {set key : String} {u : Int}

/-! ## Exchanges -/

/-- A request and its response. -/
structure Exchange where
  request : Http.Request
  response : Http.Response

/-- The exchange has changed or removed the record under an identifier. A record
that is removed and created again was removed by an exchange of its own. -/
structure Exchange.Writes (x : Exchange) (set key : String) : Prop where
  method : x.request.method = "PUT" ∨ x.request.method = "PATCH" ∨ x.request.method = "DELETE"
  addresses : x.request.Addresses set key
  success : 200 ≤ x.response.status ∧ x.response.status < 300

/-- What an exchange means for the version of one record. -/
inductive Effect (x : Exchange) (s s' : Store) (set key : String) : Prop
  | same (hWrites : ¬ x.Writes set key) (h : s.SameVersion s' set key)
  | written (hWrites : x.Writes set key ∨ s.record? set key = none)
      (h : ∀ u, s.Taken u → s'.Stale set key u)

/-- A request is for one record at most. -/
theorem addresses_inj {set' key' : String} (h : q.Addresses set key) (h' : q.Addresses set' key') :
    set = set' ∧ key = key' := by
  obtain ⟨raw, hRoute, hKey⟩ := h
  obtain ⟨raw', hRoute', hKey'⟩ := h'
  obtain ⟨rfl, rfl⟩ := Route.entity.inj (hRoute.symm.trans hRoute')
  exact ⟨rfl, Except.ok.inj (hKey.symm.trans hKey')⟩

/-- An error response writes nothing. -/
theorem not_writes_ofError (e : ErrorBody) : ¬ (Exchange.mk q (.ofError e)).Writes set key := by
  intro h
  have hLow := e.status_ge
  have hHigh : e.status < 300 := h.success.2
  omega

/-- What an outcome means for the version of one record. -/
theorem Outcome.effect (hSound : s.Sound) (h : Outcome settings q s s' r) (set key : String) :
    Effect ⟨q, r⟩ s s' set key := by
  -- one case for each outcome; within a write, the record at hand or another one
  cases h with
  | refused e hSame =>
    exact .same (not_writes_ofError e)
      (Store.sameVersion_of_record?_eq (.inl hSame.lastStamp) (hSame.record?_eq set key))
  | read r hMethod hStore =>
    subst hStore
    refine .same (fun hWrites => ?_) (Store.sameVersion_of_record?_eq (.inl rfl) rfl)
    have := hWrites.method
    rcases hMethod with hMethod | hMethod <;> simp [hMethod] at this
  | @unstamped set' key' old data fault hFind hStore =>
    obtain ⟨hChanged, hLast⟩ := hSound.changedUnstamped hFind.declared hFind.stored data
    rw [← hStore] at hChanged hLast
    -- a failure is no write, although properties have changed
    refine .same (not_writes_ofError _) ?_
    by_cases hHere : set = set' ∧ key = key'
    · obtain ⟨rfl, rfl⟩ := hHere
      exact Store.sameVersion_of_merged hLast hChanged
    · exact Store.sameVersion_of_record?_eq (.inl hLast) (hChanged.record?_of_ne hHere)
  | @created set' id data tag hMethod hRoute hInserted hTag =>
    have hAdded := hSound.added hInserted
    have hLast := hInserted.lastStamp
    by_cases hHere : set = set' ∧ key = id
    · -- the identifier was free, so this is no write to a record that was there
      obtain ⟨rfl, rfl⟩ := hHere
      exact .written (.inr hAdded.rows.get?_old) fun u => Store.stale_of_stamped hInserted.stamped
        hLast hAdded.rows.get?_self (Store.kept_newRecord hInserted.stamped data key)
    · refine .same (fun hWrites => ?_) (Store.sameVersion_of_record?_eq
        (.inr ⟨hInserted.stamped, hLast⟩) (hAdded.record?_of_ne hHere))
      have := hWrites.method
      simp [hMethod] at this
  | @changed set' key' old data tag hMethod hAddresses hDeclared hRecord hStamp hStore hTag =>
    obtain ⟨hChanged, hLast⟩ := hSound.changedStamped hDeclared hRecord hStore
    by_cases hHere : set = set' ∧ key = key'
    · obtain ⟨rfl, rfl⟩ := hHere
      -- the new stamp is later than every stamp that was taken
      obtain ⟨created, updated, hOld⟩ := hSound.kept set key old hRecord
      refine .written (.inl ⟨?_, hAddresses, by simp [changedResponse, Http.Response.json]⟩)
        fun u => Store.stale_of_stamped hStamp hLast hChanged.rows.get?_self
          (hOld.changed hStamp data)
      rcases hMethod with hMethod | hMethod
      · exact .inl hMethod
      · exact .inr (.inl hMethod)
    · exact .same (fun hWrites => hHere (addresses_inj hWrites.addresses hAddresses))
        (Store.sameVersion_of_record?_eq (.inr ⟨hStamp, hLast⟩) (hChanged.record?_of_ne hHere))
  | @removed set' key' old hMethod hAddresses hDeclared hRecord hStore =>
    obtain ⟨hRemoved, hLast⟩ := hSound.removed hDeclared hRecord hStore
    by_cases hHere : set = set' ∧ key = key'
    · obtain ⟨rfl, rfl⟩ := hHere
      exact .written (.inl ⟨.inr (.inr hMethod), hAddresses, by simp [Http.Response.empty]⟩)
        fun u => Store.stale_of_removed hLast hRemoved.rows.get?_self
    · exact .same (fun hWrites => hHere (addresses_inj hWrites.addresses hAddresses))
        (Store.sameVersion_of_record?_eq (.inl hLast) (hRemoved.record?_of_ne hHere))

/-- Requests keep the declarations. -/
theorem Outcome.declares_eq (hSound : s.Sound) (h : Outcome settings q s s' r) (set : String) :
    s'.declares set = s.declares set := by
  -- no request changes the types
  have hTypes : s'.types = s.types := by
    cases h with
    | refused e hSame => exact hSame.types
    | read r hMethod hStore => rw [hStore]
    | unstamped fault hFind hStore =>
      rw [hStore]
      exact (Store.sameData_clockRead s).types
    | created hMethod hRoute hInserted hTag => exact (hSound.added hInserted).types
    | changed hMethod hAddresses hDeclared hRecord hStamp hStore hTag =>
      rw [hStore]
      rfl
    | removed hMethod hAddresses hDeclared hRecord hStore =>
      rw [hStore]
      rfl
  rw [Store.declares, hTypes]
  rfl

/-! ## Runs -/

/-- Requests that are no batches are answered one after the other, and the
clock is set to any reading before each of them. -/
inductive Run (settings : Settings) : World Store → List Exchange → World Store → Prop
  | done (w : World Store) : Run settings w [] w
  | step {w w' w'' : World Store} {q : Http.Request} {r : Http.Response} {xs : List Exchange}
      (c : Clock) (hq : q.resource ≠ .batch)
      (h : ((inMemory settings).handle q).run (w.withClock c) = (r, w'))
      (hRest : Run settings w' xs w'') : Run settings w (⟨q, r⟩ :: xs) w''

section runs

variable {xs ys : List Exchange}

/-- A run of two lists of exchanges is a run of the one, then one of the other. -/
theorem Run.append_iff : Run settings w (xs ++ ys) w'' ↔
    ∃ w', Run settings w xs w' ∧ Run settings w' ys w'' := by
  -- on the first list, whose exchanges come first on both sides
  induction xs generalizing w with
  | nil =>
    constructor
    · intro h
      exact ⟨w, .done w, h⟩
    · rintro ⟨_, ⟨⟩, h⟩
      exact h
  | cons x xs ih =>
    constructor
    · rintro (_ | ⟨c, hq, h, hRest⟩)
      obtain ⟨w', hFirst, hSecond⟩ := ih.mp hRest
      exact ⟨w', .step c hq h hFirst, hSecond⟩
    · rintro ⟨_, _ | ⟨c, hq, h, hFirst⟩, hSecond⟩
      exact .step c hq h (ih.mpr ⟨_, hFirst, hSecond⟩)

/-- What a request that follows a reachable world means for one record. The
clock has no part in it. -/
theorem effect_of_step (hReach : Store.Reachable w) (c : Clock) (hq : q.resource ≠ .batch)
    (h : ((inMemory settings).handle q).run (w.withClock c) = (r, w')) (set key : String) :
    Effect ⟨q, r⟩ (w.withClock c).store w'.store set key :=
  (handle_outcome (hReach.clock c).sound hq h).effect (hReach.clock c).sound set key

/-- A request leads from a reachable store to a reachable one, whatever the clock says. -/
theorem reachable_of_step (hReach : Store.Reachable w) (c : Clock)
    (h : ((inMemory settings).handle q).run (w.withClock c) = (r, w')) : Store.Reachable w' := by
  have := (hReach.clock c).handle settings q
  rwa [h] at this

/-- A run leads from a reachable store to a reachable one. -/
theorem Run.reachable (hReach : Store.Reachable w) (h : Run settings w xs w') :
    Store.Reachable w' := by
  induction h with
  | done w => exact hReach
  | step c hq h hRest ih => exact ih (reachable_of_step hReach c h)

/-- A run declares no types and drops none. -/
theorem Run.declares_eq (hReach : Store.Reachable w) (h : Run settings w xs w') (set : String) :
    w'.store.declares set = w.store.declares set := by
  -- each step keeps them, since the store it starts from is reachable
  induction h with
  | done w => rfl
  | step c hq h hRest ih =>
    have hOutcome := handle_outcome (hReach.clock c).sound hq h
    rw [ih (reachable_of_step hReach c h)]
    exact hOutcome.declares_eq (hReach.clock c).sound set

/-- A stale version stays stale. -/
theorem Run.stale (hReach : Store.Reachable w) (h : Run settings w xs w')
    (hStale : w.store.Stale set key u) : w'.store.Stale set key u := by
  induction h with
  | done w => exact hStale
  | @step w w' w'' q r xs c hq h hRest ih =>
    -- the clock is no part of a version, so setting it changes none
    apply ih (reachable_of_step hReach c h)
    have hClock : (w.withClock c).store.Stale set key u := ⟨hStale.taken, hStale.later⟩
    cases effect_of_step hReach c hq h set key with
    | same hWrites hSame => exact hSame.stale u hClock
    | written hWrites hLater => exact hLater u hClock.taken

/-- A version stays the current one while the record is not written. -/
theorem Run.current (hReach : Store.Reachable w) (h : Run settings w xs w')
    (hCurrent : w.store.Current set key u) (hUnwritten : ∀ x ∈ xs, ¬ x.Writes set key) :
    w'.store.Current set key u := by
  induction h with
  | done w => exact hCurrent
  | @step w w' w'' q r xs c hq h hRest ih =>
    -- the clock is set first, and that leaves the version as it is
    refine ih (reachable_of_step hReach c h) ?_ fun x hx => hUnwritten x (.tail _ hx)
    have hClock : (w.withClock c).store.Current set key u := hCurrent
    cases effect_of_step hReach c hq h set key with
    | same hWrites hSame => exact hSame.current u hClock
    | written hWrites hLater =>
      -- a record that is there is written by nothing but a write to it
      obtain ⟨record, created, hRecord, hKept⟩ := hClock
      rcases hWrites with hWrites | hNone
      · exact absurd hWrites (hUnwritten _ (.head _))
      · simp [hNone] at hRecord

/-- A write makes the version stale that was current before. -/
theorem Run.stale_of_writes (hReach : Store.Reachable w) (h : Run settings w xs w')
    (hCurrent : w.store.Current set key u) {x : Exchange} (hx : x ∈ xs)
    (hWrites : x.Writes set key) : w'.store.Stale set key u := by
  induction h with
  | done w => simp at hx
  | @step w w' w'' q r xs c hq h hRest ih =>
    have hNext := reachable_of_step hReach c h
    have hClock : (w.withClock c).store.Current set key u := hCurrent
    cases effect_of_step hReach c hq h set key with
    | same hNot hSame =>
      -- the write comes later in the run
      rcases List.mem_cons.mp hx with rfl | hx
      · exact absurd hWrites hNot
      · exact ih hNext (hSame.current u hClock) hx
    -- from here on the version is stale, whatever follows
    | written hNow hLater => exact hRest.stale hNext (hLater u hClock.taken)

end runs

end Service

end ODataService
