import ODataService.Proofs.Store.Calls
import ODataService.Proofs.Time.Order

/-!
# Stamps of a run

A stamp is later than all stamps before it, as an instant and as a text, and not before the reading
of the clock that it was taken at, whatever the clock does (`stamps_increase`). So the stamps in
records are in order, and no two records have one in common.
-/

namespace ODataService.Store

open ODataService.Action

/-- The reading of the clock, without what is less than a millisecond, is not behind the stamp. -/
theorem now_le_nextStamp (s : Store) : s.clock.now / 1000 ≤ s.nextStamp := by
  unfold nextStamp
  dsimp only
  split
  · split <;> omega
  · exact Int.le_refl _

/-- A stamp is on the calendar, its text stands for it, and it was not taken before the clock. -/
structure Stamping.Valid (a : Stamping) : Prop where
  calendar : Time.isOnCalendar a.instant = true
  text : a.text = Time.stampText a.instant
  reading : a.reading / 1000 ≤ a.instant

/-- Two stamps are in order, as instants and as texts. -/
structure Stamping.Before (a b : Stamping) : Prop where
  instant : a.instant < b.instant
  text : a.text < b.text

/-- The stamps of a history increase up to the last one of the store. -/
structure Increasing (ws : List Write) (s : Store) : Prop where
  valid : ∀ a ∈ ws.filterMap Write.stamping?, a.Valid
  ordered : (ws.filterMap Write.stamping?).Pairwise Stamping.Before
  taken : ∀ a ∈ ws.filterMap Write.stamping?, ∃ last, s.lastStamp = some last ∧ a.instant ≤ last
  calendar : ∀ last, s.lastStamp = some last → Time.isOnCalendar last = true

section increasing

variable {s s' : Store} {ws us : List Write}

theorem valid_taking (h : s.stampFault? = none) : s.taking.Valid :=
  ⟨(nextStamp_spec h).1, rfl, now_le_nextStamp s⟩

/-- Valid stamps are in order as texts if they are as instants. -/
theorem Stamping.Valid.before {a b : Stamping} (ha : a.Valid) (hb : b.Valid)
    (h : a.instant < b.instant) : a.Before b := by
  refine ⟨h, ?_⟩
  rw [ha.text, hb.text]
  exact Time.stampText_lt h ha.calendar hb.calendar

/-- A stamp that is taken lies behind all that were taken before. -/
theorem Increasing.before_taking (hi : Increasing ws s) (h : s.stampFault? = none) {a : Stamping}
    (ha : a ∈ ws.filterMap Write.stamping?) : a.Before s.taking := by
  obtain ⟨last, hlast, hle⟩ := hi.taken a ha
  have hlater : last < s.nextStamp := (nextStamp_spec h).2 last hlast
  refine (hi.valid a ha).before (valid_taking h) ?_
  show a.instant < s.nextStamp
  omega

/-- A step keeps the stamps in order. -/
theorem Step.increasing (h : Step s us s') (hi : Increasing ws s) : Increasing (ws ++ us) s' := by
  -- the step takes no stamp, or it takes the next one
  rcases h.stamped with ⟨hnone, hlast⟩ | ⟨hone, hstamp, hlast⟩
  · have hsame : (ws ++ us).filterMap Write.stamping? = ws.filterMap Write.stamping? := by
      rw [List.filterMap_append, hnone, List.append_nil]
    exact ⟨hsame ▸ hi.valid, hsame ▸ hi.ordered, hsame ▸ hlast ▸ hi.taken, hlast ▸ hi.calendar⟩
  · have hmore : (ws ++ us).filterMap Write.stamping? =
        ws.filterMap Write.stamping? ++ [s.taking] := by
      rw [List.filterMap_append, hone]
    -- the new stamp is valid, later than the others, the last one, and on the calendar
    refine ⟨?_, ?_, ?_, ?_⟩
    · rw [hmore]
      intro a ha
      rcases List.mem_append.mp ha with ha | ha
      · exact hi.valid a ha
      · obtain rfl := List.mem_singleton.mp ha
        exact valid_taking hstamp
    · rw [hmore, List.pairwise_append]
      refine ⟨hi.ordered, List.pairwise_singleton _ _, fun a ha b hb => ?_⟩
      obtain rfl := List.mem_singleton.mp hb
      exact hi.before_taking hstamp ha
    · rw [hmore]
      intro a ha
      refine ⟨s.nextStamp, hlast, ?_⟩
      rcases List.mem_append.mp ha with ha | ha
      · exact Int.le_of_lt (hi.before_taking hstamp ha).instant
      · obtain rfl := List.mem_singleton.mp ha
        exact Int.le_refl _
    · rw [hlast]
      rintro last heq
      obtain rfl := Option.some.inj heq
      exact (nextStamp_spec hstamp).1

/-- So does any sequence of steps from the empty store. -/
theorem Evolves.increasing (h : Evolves {} ws s) : Increasing ws s := by
  induction h with
  | refl => exact ⟨by simp, List.Pairwise.nil, by simp, by simp⟩
  | step _ hstep ih => exact hstep.increasing ih

end increasing

/-! ## Stamps in records -/

/-- Two records have neither the time of their creation nor that of their last write in common. -/
structure Apart (r r' : Record) : Prop where
  created : Keyed.get? r "created_at" ≠ Keyed.get? r' "created_at"
  updated : Keyed.get? r "updated_at" ≠ Keyed.get? r' "updated_at"

theorem Apart.symm {r r' : Record} (h : Apart r r') : Apart r' r :=
  ⟨Ne.symm h.created, Ne.symm h.updated⟩

/-- No two records of a store have a stamp in common. -/
def Spread (s : Store) : Prop :=
  ∀ set key r set' key' r', s.record? set key = some r → s.record? set' key' = some r' →
    ¬ (set = set' ∧ key = key') → Apart r r'

section spread

variable {s s' : Store} {ws us : List Write} {name id : String} {r old data : Record}

/-- The next stamp is in no record yet. -/
theorem Kept.ne_stamp {key : String} {created updated : Int}
    (hk : Kept s.lastStamp key r created updated) (h : s.stampFault? = none) :
    Keyed.get? r "created_at" ≠ some s.stamp ∧ Keyed.get? r "updated_at" ≠ some s.stamp := by
  obtain ⟨hcalendar, hlater⟩ := nextStamp_spec h
  obtain ⟨last, hlast, hle⟩ := hk.taken
  have hlt := hlater last hlast
  have hordered := hk.ordered
  -- an earlier time has another text
  have hne : ∀ {t : Int}, Time.isOnCalendar t = true → t < s.nextStamp →
      some (Json.str (Time.stampText t)) ≠ some s.stamp := by
    intro t ht hbefore heq
    have htext : Time.stampText t = Time.stampText s.nextStamp := Json.str.inj (Option.some.inj heq)
    have hsame := Time.stampText_inj ht hcalendar htext
    omega
  constructor
  · rw [hk.created_at]
    exact hne hk.created_valid (by omega)
  · rw [hk.updated_at]
    exact hne hk.updated_valid (by omega)

/-- Records stay apart when one of them is written and stays apart from all others. -/
theorem Spread.of_entry (hs : Spread s)
    (hother : ∀ {set key}, ¬ (set = name ∧ key = id) → s'.record? set key = s.record? set key)
    (hnew : ∀ {set key r r'}, ¬ (set = name ∧ key = id) → s.record? set key = some r →
      s'.record? name id = some r' → Apart r' r) : Spread s' := by
  intro set key r set' key' r' hr hr' hne
  -- the one record, the other, or neither is the one that was written
  by_cases hwritten : set = name ∧ key = id
  · obtain ⟨rfl, rfl⟩ := hwritten
    have hne' : ¬ (set' = set ∧ key' = key) := fun heq => hne ⟨heq.1.symm, heq.2.symm⟩
    rw [hother hne'] at hr'
    exact hnew hne' hr' hr
  · rw [hother hwritten] at hr
    by_cases hwritten' : set' = name ∧ key' = id
    · obtain ⟨rfl, rfl⟩ := hwritten'
      exact (hnew hwritten hr hr').symm
    · rw [hother hwritten'] at hr'
      exact hs set key r set' key' r' hr hr' hne

/-- A step gives no record the stamp of another one. -/
theorem Step.spread (h : Step s us s') (hs : Sound s) (hspread : Spread s) : Spread s' := by
  -- one case for each kind of step; the new stamp of a write is in no record yet
  cases h with
  | same h =>
    intro set key r set' key' r' hr hr'
    rw [h.record?_eq] at hr hr'
    exact hspread set key r set' key' r' hr hr'
  | declared h =>
    intro set key r set' key' r' hr hr'
    rw [record?, h.rows_eq] at hr hr'
    exact hspread set key r set' key' r' hr hr'
  | @inserted _ name id data h hstamp _ =>
    refine hspread.of_entry h.record?_of_ne fun _ hr hr' => ?_
    obtain rfl := Option.some.inj (h.rows.get?_self.symm.trans hr')
    obtain ⟨created, updated, hk⟩ := hs.kept _ _ _ hr
    -- both times of the new record are the new stamp
    obtain ⟨hcreated, hupdated⟩ := hk.ne_stamp hstamp
    have hget : ∀ k ∈ systemFields, _ := fun k hk => get?_newRecord hk data id s.stamp
    exact ⟨hget "created_at" (by decide) ▸ hcreated.symm,
      hget "updated_at" (by decide) ▸ hupdated.symm⟩
  | @changed _ name id old data h hstamp _ =>
    refine hspread.of_entry h.record?_of_ne fun hne hr hr' => ?_
    obtain rfl := Option.some.inj (h.rows.get?_self.symm.trans hr')
    obtain ⟨created, updated, hk⟩ := hs.kept _ _ _ hr
    -- the time of creation stays what it was, and the other one is new
    have hold : Apart old _ := hspread _ _ _ _ _ _ h.rows.get?_old hr fun heq =>
      hne ⟨heq.1.symm, heq.2.symm⟩
    refine ⟨?_, ?_⟩
    · rw [get?_changedRecord (by decide) (by decide)]
      exact hold.created
    · rw [get?_changedRecord_updated]
      exact (hk.ne_stamp hstamp).2.symm
  | @merged _ name id old data h _ =>
    refine hspread.of_entry h.record?_of_ne fun hne hr hr' => ?_
    obtain rfl := Option.some.inj (h.rows.get?_self.symm.trans hr')
    have hold : Apart old _ := hspread _ _ _ _ _ _ h.rows.get?_old hr fun heq =>
      hne ⟨heq.1.symm, heq.2.symm⟩
    refine ⟨?_, ?_⟩
    · rw [get?_mergedRecord (by decide)]
      exact hold.created
    · rw [get?_mergedRecord (by decide)]
      exact hold.updated
  | removed h _ =>
    refine hspread.of_entry h.record?_of_ne fun _ _ hr' => ?_
    -- the removed record is in question no more
    have hgone := h.rows.get?_self
    rw [record?, hgone] at hr'
    simp at hr'

/-- So does any sequence of steps from the empty store. -/
theorem Evolves.spread (h : Evolves {} ws s) : Spread s := by
  induction h with
  | refl =>
    intro set key r set' key' r' hr
    simp [record?, rows, Assoc.get?] at hr
  | step h hstep ih => exact hstep.spread (h.sound sound_empty) ih

end spread

/-! ## Runs -/

/-- The stamps of a record are in order, and not behind the last one of its store. -/
theorem Evolves.stamps_ordered {s : Store} {ws : List Write} {set key : String} {r : Record}
    (h : Evolves {} ws s) (hr : s.record? set key = some r) :
    ∃ created updated last,
      Keyed.get? r "created_at" = some (.str (Time.stampText created)) ∧
      Keyed.get? r "updated_at" = some (.str (Time.stampText updated)) ∧
      s.lastStamp = some last ∧ created ≤ updated ∧ updated ≤ last ∧
      Time.stampText created ≤ Time.stampText updated ∧
      Time.stampText updated ≤ Time.stampText last := by
  obtain ⟨created, updated, hk⟩ := (h.sound sound_empty).kept set key r hr
  -- the time of the last change was taken by then
  obtain ⟨last, hlast, hle⟩ := hk.taken
  have hcalendar := h.increasing.calendar last hlast
  exact ⟨created, updated, last, hk.created_at, hk.updated_at, hlast, hk.ordered, hle,
    Time.stampText_le hk.ordered hk.created_valid hk.updated_valid,
    Time.stampText_le hle hk.updated_valid hcalendar⟩

/-- In a run of calls every insertion and every change that succeeds takes a stamp that is later
than all stamps before it, as an instant and as a text, and not before what the clock showed in full
milliseconds. After the run the stamps of every record are in order and not behind the last one, and
no two records have the time of their creation or that of their last write in common. -/
theorem stamps_increase (calls : List Call) :
    let w := play blank calls
    let stamps := (history blank calls).filterMap Write.stamping?
    stamps.Pairwise Stamping.Before ∧ (∀ a ∈ stamps, a.Valid) ∧
    (∀ set key r, w.store.record? set key = some r → ∃ created updated last,
      Keyed.get? r "created_at" = some (.str (Time.stampText created)) ∧
      Keyed.get? r "updated_at" = some (.str (Time.stampText updated)) ∧
      w.store.lastStamp = some last ∧ created ≤ updated ∧ updated ≤ last ∧
      Time.stampText created ≤ Time.stampText updated ∧
      Time.stampText updated ≤ Time.stampText last) ∧
    (∀ set key r set' key' r', w.store.record? set key = some r →
      w.store.record? set' key' = some r' → ¬ (set = set' ∧ key = key') → Apart r r') := by
  intro w stamps
  have hevolves : Evolves {} (history blank calls) w.store := evolves_run calls
  have hincreasing := hevolves.increasing
  -- each part is an invariant of the steps
  exact ⟨hincreasing.ordered, hincreasing.valid, fun set key r => hevolves.stamps_ordered,
    hevolves.spread⟩

/-- Two records, of which the second is written when the clock has gone back. -/
def clockBack : List Call :=
  [.register { name := "A" },
    .create (.str "A") (.obj [(.str "_id", .str "1")]) ⟨1700000000000500, 0⟩,
    .create (.str "A") (.obj [(.str "_id", .str "2")]) ⟨1699999999999000, 0⟩]

def firstStamping : Stamping := ⟨1700000000000500, 1700000000000, "2023-11-14T22:13:20.000Z"⟩

def secondStamping : Stamping := ⟨1699999999999000, 1700000000001, "2023-11-14T22:13:20.001Z"⟩

/-- The stamp that is taken when the clock has gone back is later by a millisecond. -/
theorem stamps_increase_clock_back :
    secondStamping ∈ (history blank clockBack).filterMap Write.stamping? ∧ secondStamping.Valid ∧
      firstStamping.Before secondStamping ∧
      ∃ r r', (play blank clockBack).store.record? "A" "1" = some r ∧
        (play blank clockBack).store.record? "A" "2" = some r' ∧ Apart r r' := by
  have hstamps : (history blank clockBack).filterMap Write.stamping? =
      [firstStamping, secondStamping] := by rfl
  obtain ⟨hordered, hvalid, -, happart⟩ := stamps_increase clockBack
  have hmem : secondStamping ∈ (history blank clockBack).filterMap Write.stamping? :=
    hstamps ▸ List.mem_cons_of_mem _ List.mem_cons_self
  rw [hstamps] at hordered
  have hbefore := (List.pairwise_cons.mp hordered).1 secondStamping List.mem_cons_self
  exact ⟨hmem, hvalid _ hmem, hbefore, _, _, rfl, rfl,
    happart "A" "1" _ "A" "2" _ rfl rfl (by simp)⟩

end ODataService.Store
