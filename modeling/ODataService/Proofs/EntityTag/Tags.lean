import ODataService.EntityTag.Basic
import ODataService.EntityTag.Precondition
import ODataService.Proofs.Number.Rounding
import ODataService.Proofs.Text.Splitting
import ODataService.Proofs.Time.Stamps

/-!
# Tags of stamped records

The tag of a record that carries a stamp holds the milliseconds of that stamp:
the stamp is read back exactly, and the way over binary64 seconds does not
lose them. Two such tags are equal only if the stamps are, and a header with
one tag lists that tag and no other.
-/

namespace ODataService.EntityTag

open Binary64

/-! ## Milliseconds -/

/-- Numbers of a moderate size are within the normal range. -/
theorem normal_of_le {x : ℚ} (hLow : 1 / 2 ^ 10 ≤ x) (hHigh : x < 2 ^ 50) : Normal x where
  low := by
    refine le_trans ?_ hLow
    calc (2 : ℚ) ^ (-1022 : Int) ≤ 2 ^ (-10 : Int) :=
          zpow_le_zpow_right₀ one_le_two (by norm_num)
      _ = 1 / 2 ^ 10 := by norm_num
  high := by
    refine lt_of_lt_of_le hHigh ?_
    calc (2 : ℚ) ^ 50 = 2 ^ (50 : Int) := by norm_num
      _ ≤ 2 ^ (1000 : Int) := zpow_le_zpow_right₀ one_le_two (by norm_num)

/-- A stamp in seconds, rounded to binary64, and back in milliseconds, rounded
again, is off by far less than half a millisecond. -/
theorem millis_roundtrip (negative : Bool) {n : Nat} (h : n < 2 ^ 48) :
    ∃ m e, (ofRatio negative (n * 1000) 1000000).mulNat 1000 = .finite negative m e ∧
      scaledSignificand m 1 (-e) = n := by
  -- the rounding is to 53 bits, and 48 of them hold the milliseconds
  have hUnitPos : 0 < unitRoundoff := by
    unfold unitRoundoff
    positivity
  have hUnit : unitRoundoff ≤ 1 / 2 ^ 53 := by
    unfold unitRoundoff
    norm_num
  have hBound : (n : ℚ) ≤ 2 ^ 48 := by exact_mod_cast h.le
  have hCases : n = 0 ∨ (1 : ℚ) ≤ n := by
    rcases Nat.eq_zero_or_pos n with hn | hn
    · exact .inl hn
    · exact .inr (by exact_mod_cast hn)
  -- the unit of all errors
  obtain ⟨d, hd⟩ : ∃ d, d = n * unitRoundoff := ⟨_, rfl⟩
  have hdPos : 0 ≤ d := by
    rw [hd]
    positivity
  have hdSmall : d ≤ 1 / 32 := by
    calc d = n * unitRoundoff := hd
      _ ≤ 2 ^ 48 * (1 / 2 ^ 53) := by gcongr
      _ = 1 / 32 := by norm_num
  have hSeconds : ((n * 1000 : Nat) : ℚ) / (1000000 : Nat) = n / 1000 := by
    push_cast
    ring
  -- the first rounding, to seconds
  have hFirst : n * 1000 = 0 ∨ Normal (((n * 1000 : Nat) : ℚ) / (1000000 : Nat)) := by
    rw [hSeconds]
    refine hCases.imp (fun hn => by rw [hn]) fun hn => normal_of_le ?_ ?_
    · linarith
    · linarith
  obtain ⟨m, e, hSec, hSecError⟩ := ofRatio_error negative (by norm_num) hFirst
  have hSecSplit : (n : ℚ) / 1000 * unitRoundoff = d / 1000 := by
    rw [hd]
    ring
  rw [hSeconds, hSecSplit, abs_le] at hSecError
  -- the second rounding, to milliseconds
  have hSecond : m * 1000 = 0 ∨ Normal (size m e * (1000 : Nat)) := by
    rcases hCases with rfl | hn
    · have hdZero : d = 0 := by
        rw [hd, Nat.cast_zero, zero_mul]
      have hSize : size m e = 0 := by
        rw [hdZero, Nat.cast_zero] at hSecError
        linarith [hSecError.1, hSecError.2]
      have hm := (mul_eq_zero.mp hSize).resolve_right (zpow_ne_zero e two_ne_zero)
      have hm' : m = 0 := by exact_mod_cast hm
      exact .inl (by rw [hm'])
    · refine .inr (normal_of_le ?_ ?_)
      · push_cast
        linarith [hSecError.1]
      · push_cast
        linarith [hSecError.2]
  -- both errors together stay below half a millisecond
  obtain ⟨m', e', hMilli, hMilliError⟩ := mulNat_error negative hSecond
  refine ⟨m', e', by rw [hSec, hMilli], scaledSignificand_eq ?_⟩
  have hMilliSmall : size m e * (1000 : Nat) * unitRoundoff ≤ 2 * d := by
    calc size m e * (1000 : Nat) * unitRoundoff ≤ 2 * n * unitRoundoff := by
          refine mul_le_mul_of_nonneg_right ?_ hUnitPos.le
          push_cast
          rcases hCases with rfl | hn
          · rw [Nat.cast_zero, zero_mul] at hd
            rw [hd, Nat.cast_zero] at hSecError
            linarith [hSecError.2]
          · linarith [hSecError.2]
      _ = 2 * d := by
          rw [hd]
          ring
  have hMilliError' := abs_le.mp (hMilliError.trans hMilliSmall)
  push_cast at hMilliError'
  rw [abs_lt]
  constructor
  · linarith [hSecError.1, hMilliError'.1]
  · linarith [hSecError.2, hMilliError'.2]

/-- Whole milliseconds come through seconds and back. -/
theorem millisOfMicros_mul {n : Int} (h : n.natAbs < 2 ^ 48) : millisOfMicros (n * 1000) = n := by
  obtain ⟨m, e, hFinite, hRound⟩ := millis_roundtrip (decide (n * 1000 < 0)) h
  -- the rounding is the same for both signs
  have hAbs : (n * 1000).natAbs = n.natAbs * 1000 := Int.natAbs_mul n 1000
  rw [millisOfMicros, hAbs, hFinite]
  dsimp only
  rw [roundToInt, hRound]
  split
  · next hNeg =>
    have := of_decide_eq_true hNeg
    omega
  · next hNeg =>
    have := of_decide_eq_false (Bool.eq_false_iff.mpr hNeg)
    omega

/-- The calendar is short enough for exact milliseconds. -/
theorem millisOfMicros_of_isOnCalendar {millis : Int} (h : Time.isOnCalendar millis = true) :
    millisOfMicros (millis * 1000) = millis := by
  apply millisOfMicros_mul
  simp only [Time.isOnCalendar, Bool.and_eq_true, decide_eq_true_eq] at h
  -- the calendar ends far below the bound of exact milliseconds
  have hLast : Time.daysBeforeYear (Time.maxYear + 1) = 3652059 := by decide
  rw [hLast] at h
  unfold Time.dayMillis Time.epochOrdinal at h
  omega

/-! ## Tags -/

/-- The tag of a record that was last written at a stamp. -/
def stampTag (millis : Int) : String := weak (toString millis)

/-- A stamp is written in UTC. -/
theorem withOffset_stampText (millis : Int) :
    withOffset (Time.stampText millis) = Time.zonedText millis .utc := by
  rw [withOffset, Time.toList_stampText, List.getLast?_concat, Time.zonedText,
    Time.WrittenOffset.millis_utc, Time.WrittenOffset.text_utc, Int.add_zero]
  show String.ofList (List.dropLast (_ ++ ['Z']) ++ Time.Timestamp.utcOffset) = _
  rw [List.dropLast_concat, List.append_assoc, List.cons_append]

/-- A text that shows an instant with its offset is read as the milliseconds of this instant. -/
theorem timeMillis_of_zonedText {text : String} {millis : Int} {o : Time.WrittenOffset}
    (hText : withOffset (Text.strip text) = Time.zonedText millis o)
    (h : Time.isOnCalendar millis = true) (hShown : Time.isOnCalendar (millis + o.millis) = true) :
    timeMillis (.str text) = .ok (some millis) := by
  unfold timeMillis
  dsimp only
  rw [hText, Time.parse_zonedText hShown]
  show Except.ok (some (millisOfMicros (millis * 1000))) = _
  rw [millisOfMicros_of_isOnCalendar h]

/-- A stamp is read back as the milliseconds that it was written from. -/
theorem timeMillis_stampText {millis : Int} (h : Time.isOnCalendar millis = true) :
    timeMillis (.str (Time.stampText millis)) = .ok (some millis) := by
  have hText : withOffset (Text.strip (Time.stampText millis)) = Time.zonedText millis .utc := by
    rw [Time.strip_stampText, withOffset_stampText]
  have hShown : Time.isOnCalendar (millis + Time.WrittenOffset.utc.millis) = true := by
    rw [Time.WrittenOffset.millis_utc, Int.add_zero]
    exact h
  exact timeMillis_of_zonedText hText h hShown

/-- The tag of a record with a stamp is made of the stamp. -/
theorem ofRecord_eq_stampTag {r : Record} {millis : Int}
    (hUpdated : Keyed.get? r "updated_at" = some (.str (Time.stampText millis)))
    (h : Time.isOnCalendar millis = true) : ofRecord r = .ok (stampTag millis) := by
  have hMember : Json.member r timestampField = .str (Time.stampText millis) := by
    rw [Json.member, timestampField, hUpdated]
    rfl
  rw [ofRecord, hMember, timeMillis_stampText h]
  rfl

/-- A weak tag is its content in quotes, with a mark in front. -/
theorem toList_weak (content : String) :
    (weak content).toList = 'W' :: '/' :: '"' :: (content.toList ++ ['"']) := by
  simp only [weak, String.toList_append, List.append_assoc]
  rfl

/-- The tag of a stamp is its number in quotes, with a mark in front. -/
theorem toList_stampTag (millis : Int) :
    (stampTag millis).toList = 'W' :: '/' :: '"' :: ((toString millis).toList ++ ['"']) :=
  toList_weak _

/-- Tags of different stamps are different. -/
theorem stampTag_inj {m n : Int} : stampTag m = stampTag n ↔ m = n := by
  constructor
  · intro h
    have hList := congrArg String.toList h
    rw [toList_stampTag, toList_stampTag] at hList
    simp only [List.cons.injEq, true_and] at hList
    exact Text.intText_inj.mp (List.append_cancel_right hList)
  · rintro rfl
    rfl

/-! ## Headers with one tag -/

/-- A tag of a stamp holds digits, a minus and what stands around them. -/
theorem not_mem_stampTag {millis : Int} {c : Char} (hc : c.isDigit = false)
    (h : c ∉ ['W', '/', '"', '-']) : c ∉ (stampTag millis).toList := by
  intro hMem
  simp only [List.mem_cons, List.not_mem_nil, or_false, not_or] at h
  simp only [toList_stampTag, List.mem_cons, List.mem_append, List.not_mem_nil, or_false] at hMem
  rcases hMem with hMem | hMem | hMem | hMem | hMem
  · exact h.1 hMem
  · exact h.2.1 hMem
  · exact h.2.2.1 hMem
  · rcases Text.mem_intText hMem with hMinus | hDigit
    · exact h.2.2.2 hMinus
    · simp [hc] at hDigit
  · exact h.2.2.1 hMem

/-- A header lists a text without commas as one tag. -/
theorem listedTags?_single {s : String} (hs : Text.StartsSolid s.toList)
    (he : Text.EndsSolid s.toList) (hComma : ',' ∉ s.toList) :
    listedTags? (some s) = some [s] := by
  have hList := Text.commaList_single hs he hComma
  obtain ⟨c, ds, hStart, hSolid⟩ := hs
  have hBlank : Text.isBlankText s = false := by
    rw [Text.isBlankText, hStart, List.all_cons, hSolid]
    rfl
  show (if Text.isBlankText s = true then none else some (Text.commaList s)) = _
  rw [hBlank, hList]
  rfl

/-- A weak tag starts with its mark. -/
theorem startsSolid_weak (content : String) : Text.StartsSolid (weak content).toList := by
  rw [toList_weak]
  exact ⟨'W', _, rfl, by decide⟩

/-- A weak tag ends with its quote. -/
theorem endsSolid_weak (content : String) : Text.EndsSolid (weak content).toList := by
  rw [toList_weak]
  exact ⟨'W' :: '/' :: '"' :: content.toList, '"', rfl, by decide⟩

/-- A tag of a stamp is listed as one tag. -/
theorem listedTags?_stampTag (millis : Int) :
    listedTags? (some (stampTag millis)) = some [stampTag millis] :=
  listedTags?_single (startsSolid_weak _) (endsSolid_weak _)
    (not_mem_stampTag (by decide) (by decide))

/-- A list names a tag that it holds, and a star names all. -/
theorem names_iff {tags : List String} {tag : String} :
    names tags tag = true ↔ "*" ∈ tags ∨ tag ∈ tags := by
  rw [names, Bool.or_eq_true, List.contains_iff_mem, List.contains_iff_mem]

/-- The tag of a stamp names its own stamp only. -/
theorem names_stampTag {m n : Int} : names [stampTag m] (stampTag n) = true ↔ n = m := by
  -- the star, which names every tag, is no tag of a stamp
  have hStar : stampTag m ≠ "*" := by
    intro h
    have := congrArg String.toList h
    rw [toList_stampTag] at this
    simp at this
  rw [names_iff, List.mem_singleton, List.mem_singleton, stampTag_inj]
  exact or_iff_right (Ne.symm hStar)

/-- The condition that a stamp is the current one. -/
theorem satisfies_stampTag {m n : Int} :
    satisfies (stampTag n) (some (stampTag m)) = true ↔ n = m := by
  rw [satisfies, listedTags?_stampTag]
  exact names_stampTag

/-- A read with the tag of a stamp is answered as not modified while the stamp is the current one. -/
theorem isNotModified_stampTag {m n : Int} :
    isNotModified (stampTag n) (some (stampTag m)) = true ↔ n = m := by
  rw [isNotModified, listedTags?_stampTag]
  exact names_stampTag

end ODataService.EntityTag
