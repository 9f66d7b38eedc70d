import ODataService.Proofs.Keyed
import ODataService.Proofs.Store.Operations

/-!
# Stored records

What the store fills in of a record, and what a change leaves as it was. The properties that the
store fills in are never those that a client sends; a change sets the time of the last write and
nothing else of them.
-/

namespace ODataService

namespace Store

/-- A property that the store fills in is none of those that a record has of its own. -/
theorem get?_ownFields {k : String} (hk : k ∈ systemFields) (data : Record) :
    Keyed.get? (ownFields data) k = none := by
  refine Keyed.get?_eq_none fun e he => ?_
  -- own properties are those that are left when the others are filtered out
  have hown : e.1.isAmong systemFields = false := by
    simpa using (List.mem_filter.mp he).2
  rw [Bool.eq_false_iff, Ne, Scalar.sameKey_str_right_iff]
  intro heq
  rw [heq, Scalar.isAmong, Bool.eq_false_iff] at hown
  exact hown (List.contains_iff_mem.mpr hk)

/-- Of a new record, the store fills in what is its own to fill in, whatever the data say. -/
theorem get?_newRecord {k : String} (hk : k ∈ systemFields) (data : Record) (id : String)
    (stamp : Json) :
    Keyed.get? (newRecord data id stamp) k = Keyed.get? (systemMembers id stamp) k := by
  rw [newRecord, Keyed.get?_append_of_none (get?_ownFields hk data)]

/-- A change of properties leaves what the store fills in. -/
theorem get?_mergedRecord {k : String} (hk : k ∈ systemFields) (old data : Record) :
    Keyed.get? (mergedRecord old data) k = Keyed.get? old k := by
  rw [mergedRecord, Keyed.get?_merge_of_none (get?_ownFields hk data)]

/-- The time of the last write is the stamp of the change. -/
theorem get?_changedRecord_updated (old data : Record) (stamp : Json) :
    Keyed.get? (changedRecord old data stamp) "updated_at" = some stamp :=
  Keyed.get?_set_of_sameKey _ _ (Scalar.sameKey_str_iff.mpr rfl)

/-- The rest of what the store fills in stays what it was. -/
theorem get?_changedRecord {k : String} (hk : k ∈ systemFields) (hne : k ≠ "updated_at")
    (old data : Record) (stamp : Json) :
    Keyed.get? (changedRecord old data stamp) k = Keyed.get? old k := by
  have hsame : Scalar.sameKey "updated_at" k = false := by
    rw [Bool.eq_false_iff, Ne, Scalar.sameKey_str_iff]
    exact Ne.symm hne
  rw [changedRecord, Keyed.get?_set_of_not_sameKey _ _ hsame, get?_mergedRecord hk]

/-- A record as the store keeps it, when the last stamp is `last`: it has its identifier, and the
times of its creation and of its last write are stamps that were taken in this order. -/
structure Kept (last : Option Int) (id : String) (r : Record) (created updated : Int) : Prop where
  ident : Keyed.get? r "_id" = some (.str id)
  mirror : Keyed.get? r "id" = some (.str id)
  created_at : Keyed.get? r "created_at" = some (.str (Time.stampText created))
  updated_at : Keyed.get? r "updated_at" = some (.str (Time.stampText updated))
  created_valid : Time.isOnCalendar created = true
  updated_valid : Time.isOnCalendar updated = true
  ordered : created ≤ updated
  taken : ∃ l, last = some l ∧ updated ≤ l

variable {s : Store} {id : String} {old data : Record} {created updated : Int}

/-- A stamp that is taken is on the calendar and later than the last one. -/
theorem nextStamp_spec (h : s.stampFault? = none) :
    Time.isOnCalendar s.nextStamp = true ∧ ∀ last, s.lastStamp = some last → last < s.nextStamp := by
  constructor
  · unfold stampFault? at h
    split at h
    · simp at h
    · split at h
      · assumption
      · simp at h
  · intro last hlast
    rw [nextStamp, hlast]
    -- the reading is later than the last stamp, or the stamp is the next millisecond
    dsimp only
    split <;> omega

/-- A new record is as the store keeps it, with its stamp as both times. -/
theorem kept_newRecord (h : s.stampFault? = none) (data : Record) (id : String) :
    Kept (some s.nextStamp) id (newRecord data id s.stamp) s.nextStamp s.nextStamp := by
  have hvalid := (nextStamp_spec h).1
  have hget : ∀ k ∈ systemFields, _ := fun k hk => get?_newRecord hk data id s.stamp
  exact ⟨hget "_id" (by decide), hget "id" (by decide), hget "created_at" (by decide),
    hget "updated_at" (by decide), hvalid, hvalid, Int.le_refl _, s.nextStamp, rfl, Int.le_refl _⟩

/-- A record that is changed stays so, with a later time of the last write. -/
theorem Kept.changed (hk : Kept s.lastStamp id old created updated) (h : s.stampFault? = none)
    (data : Record) :
    Kept (some s.nextStamp) id (changedRecord old data s.stamp) created s.nextStamp := by
  obtain ⟨hvalid, hlater⟩ := nextStamp_spec h
  obtain ⟨last, hlast, hle⟩ := hk.taken
  -- all that the store fills in stays, but for the time of the last write
  have hget : ∀ k ∈ systemFields, k ≠ "updated_at" → _ :=
    fun k hk hne => get?_changedRecord hk hne old data s.stamp
  refine ⟨?_, ?_, ?_, get?_changedRecord_updated old data _, hk.created_valid, hvalid, ?_,
    s.nextStamp, rfl, Int.le_refl _⟩
  · rw [hget "_id" (by decide) (by decide), hk.ident]
  · rw [hget "id" (by decide) (by decide), hk.mirror]
  · rw [hget "created_at" (by decide) (by decide), hk.created_at]
  · have := hlater last hlast
    have := hk.ordered
    omega

/-- A record whose properties alone are changed stays so, with its old times. -/
theorem Kept.merged (hk : Kept s.lastStamp id old created updated) (data : Record) :
    Kept s.lastStamp id (mergedRecord old data) created updated := by
  have hget : ∀ k ∈ systemFields, _ := fun k hk => get?_mergedRecord hk old data
  refine ⟨?_, ?_, ?_, ?_, hk.created_valid, hk.updated_valid, hk.ordered, hk.taken⟩
  · rw [hget "_id" (by decide), hk.ident]
  · rw [hget "id" (by decide), hk.mirror]
  · rw [hget "created_at" (by decide), hk.created_at]
  · rw [hget "updated_at" (by decide), hk.updated_at]

/-- A record stays kept when a later stamp is taken for another one. -/
theorem Kept.later (hk : Kept s.lastStamp id old created updated) (h : s.stampFault? = none) :
    Kept (some s.nextStamp) id old created updated := by
  obtain ⟨last, hlast, hle⟩ := hk.taken
  have hlt := (nextStamp_spec h).2 last hlast
  exact ⟨hk.ident, hk.mirror, hk.created_at, hk.updated_at, hk.created_valid, hk.updated_valid,
    hk.ordered, s.nextStamp, rfl, by omega⟩

end Store

end ODataService
