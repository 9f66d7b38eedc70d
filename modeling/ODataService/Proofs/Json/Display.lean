import ODataService.Json.Writer

/-!
# Texts that stand for values

The text that stands for a value inside another text is empty only for the empty text
(`Json.display_ne_empty`).
-/

namespace ODataService

/-- A text with something at its end is not empty. -/
theorem append_ne_empty (s : String) {t : String} (h : t ≠ "") : s ++ t ≠ "" := by
  rw [Ne, String.append_eq_empty_iff]
  exact fun hboth => h hboth.2

namespace NumberFormat

/-- Without an exponent a point is written. -/
theorem plain_positional_ne_empty (digits : List Char) (first : Int) :
    plain.positional digits first ≠ "" := by
  unfold positional
  split
  · simp
  · dsimp only
    split
    · exact append_ne_empty _ (by decide)
    · simp [← String.toList_eq_nil_iff]

/-- A number with an exponent is not the empty text. -/
theorem scientific_ne_empty (f : NumberFormat) (digits : List Char) (first : Int) :
    f.scientific digits first ≠ "" := by
  simp [scientific]

/-- A number is not written as the empty text. -/
theorem plain_write_ne_empty (x : Binary64) : plain.write x ≠ "" := by
  cases x with
  | nan => decide
  | infinity negative => exact append_ne_empty _ (by decide)
  | finite negative significand exponent =>
    -- with an exponent or without, digits are written
    unfold write
    dsimp only
    split
    · exact append_ne_empty _ (plain_positional_ne_empty _ _)
    · refine append_ne_empty _ ?_
      split
      · exact plain_positional_ne_empty _ _
      · exact scientific_ne_empty _ _ _

end NumberFormat

namespace Json

/-- An integer is not written as the empty text. -/
theorem toString_int_ne_empty (n : Int) : toString n ≠ "" := by
  cases n with
  | ofNat m => exact Nat.repr_ne_empty
  | negSucc m => exact append_ne_empty _ Nat.repr_ne_empty

/-- Only the empty text is shown as the empty text. -/
theorem display_ne_empty {v : Json} (h : v ≠ .str "") : v.display ≠ "" := by
  cases v with
  | null => decide
  | bool b => cases b <;> decide
  | int n => exact toString_int_ne_empty n
  | real x => exact NumberFormat.plain_write_ne_empty x
  | str s =>
    rintro rfl
    exact h rfl
  -- lists and maps are closed by a bracket
  | arr items => exact append_ne_empty _ (by decide)
  | obj members => exact append_ne_empty _ (by decide)

end Json

end ODataService
