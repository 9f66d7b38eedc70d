import Mathlib.Algebra.BigOperators.Fin
import Mathlib.Data.Int.ModEq
import Mathlib.Tactic.Ring
import ODataService.EntityTag.RollingHash

/-!
# The hash as a polynomial

The rolling hash of a text is its value as a polynomial at 31, the code points being the
coefficients: taking the remainder at every character comes to taking it once, at the end
(`toNat_rollingWord`). What is written is the absolute value of the signed remainder in base 36, as
a reader of such numerals reads it (`IsNumeral`). Main result: `rollingHash_polynomial`.
-/

namespace ODataService.EntityTag

/-! ## The polynomial -/

/-- The sum of the code points `c_1, …, c_n` of a text, each times `31 ^ (n - i)`. -/
def hashPolynomial (cs : List Char) : Nat :=
  ∑ i : Fin cs.length, cs[i].toNat * 31 ^ (cs.length - 1 - i)

/-- The first character has the highest power. -/
theorem hashPolynomial_cons (c : Char) (cs : List Char) :
    hashPolynomial (c :: cs) = c.toNat * 31 ^ cs.length + hashPolynomial cs := by
  unfold hashPolynomial
  show ∑ i : Fin (cs.length + 1), _ = _
  rw [Fin.sum_univ_succ]
  congr 1
  -- the exponents of the other characters stay as they are
  refine Finset.sum_congr rfl fun i _ => ?_
  have hexponent : (c :: cs).length - 1 - i.succ = cs.length - 1 - i := by
    rw [List.length_cons, Fin.val_succ]
    omega
  rw [hexponent]
  rfl

/-- A step of the hash, in which what does not fit into a word is lost. -/
theorem toNat_hashStep (h : UInt32) (c : Char) :
    (h * 31 + UInt32.ofNat c.toNat).toNat ≡ h.toNat * 31 + c.toNat [MOD 2 ^ 32] := by
  rw [UInt32.toNat_add, UInt32.toNat_mul, UInt32.toNat_ofNat']
  exact (Nat.mod_modEq _ _).trans ((Nat.mod_modEq _ _).add (Nat.mod_modEq _ _))

/-- The hash goes on as the polynomial does, modulo the word. -/
theorem toNat_foldl_hashStep (h : UInt32) (cs : List Char) :
    (cs.foldl (fun h c => h * 31 + UInt32.ofNat c.toNat) h).toNat ≡
      h.toNat * 31 ^ cs.length + hashPolynomial cs [MOD 2 ^ 32] := by
  induction cs generalizing h with
  | nil =>
    rw [List.foldl_nil, List.length_nil, pow_zero, mul_one]
    rfl
  | cons c cs ih =>
    -- one step of the scheme raises the power and adds the character
    have hHorner : (h.toNat * 31 + c.toNat) * 31 ^ cs.length + hashPolynomial cs =
        h.toNat * 31 ^ (c :: cs).length + hashPolynomial (c :: cs) := by
      rw [hashPolynomial_cons, List.length_cons]
      ring
    rw [List.foldl_cons, ← hHorner]
    exact (ih _).trans (((toNat_hashStep h c).mul_right _).add_right _)

/-- One remainder at the end is enough. -/
theorem toNat_rollingWord (text : String) :
    (rollingWord text).toNat ≡ hashPolynomial text.toList [MOD 2 ^ 32] := by
  have h := toNat_foldl_hashStep 0 text.toList
  rwa [UInt32.toNat_zero, Nat.zero_mul, Nat.zero_add] at h

/-- A word in two's complement. -/
def signed (w : UInt32) : Int :=
  if w.toNat < 2 ^ 31 then w.toNat else w.toNat - 2 ^ 32

/-- The signed number is the word, modulo the word's range. -/
theorem signed_modEq (w : UInt32) : signed w ≡ w.toNat [ZMOD 2 ^ 32] := by
  unfold signed
  split
  · rfl
  · exact Int.modEq_iff_dvd.2 ⟨1, by ring⟩

/-- The signed number is within its range. -/
theorem signed_range (w : UInt32) : -2 ^ 31 ≤ signed w ∧ signed w < 2 ^ 31 := by
  have := w.toNat_lt
  unfold signed
  split <;> omega

/-- The magnitude is that of the signed number. -/
theorem magnitude_eq (w : UInt32) : magnitude w = (signed w).natAbs := by
  have := w.toNat_lt
  unfold magnitude signed
  split <;> split <;> omega

/-! ## Numerals in base 36 -/

/-- The digits of base 36, each at the place of its value. -/
def base36Alphabet : List Char := "0123456789abcdefghijklmnopqrstuvwxyz".toList

/-- Reads digits, the most significant one first. -/
def readDigits? (cs : List Char) : Option Nat :=
  cs.foldlM (fun n c => (base36Alphabet.idxOf? c).map (n * 36 + ·)) 0

/-- Reads a number in base 36. -/
def readBase36? (text : String) : Option Nat :=
  if text.isEmpty then none else readDigits? text.toList

/-- The text is the numeral of a number: it is read as that number, and it starts with the digit
zero only if this is all there is. -/
structure IsNumeral (text : String) (n : Nat) : Prop where
  reads : readBase36? text = some n
  digits : ∀ c ∈ text.toList, c ∈ base36Alphabet
  leading : text.toList.head? = some '0' → text = "0"

theorem idxOf?_base36Digit : ∀ n < 36, base36Alphabet.idxOf? (base36Digit n) = some n := by
  decide

theorem base36Digit_eq_zero : ∀ n < 36, base36Digit n = '0' → n = 0 := by
  decide

/-- The digits of a number are read as the number. -/
theorem readDigits?_base36Digits (n : Nat) : readDigits? (base36Digits n) = some n := by
  fun_induction base36Digits n with
  | case1 => rfl
  -- the digits in front are read as `n / 36`
  | case2 n hn ih =>
    have hlast := idxOf?_base36Digit (n % 36) (Nat.mod_lt n (by decide))
    unfold readDigits? at *
    rw [List.foldlM_append, ih]
    simp [hlast, Nat.div_add_mod']

theorem base36Digit_mem : ∀ n < 36, base36Digit n ∈ base36Alphabet := by
  decide

/-- The digits of a number are digits of the alphabet. -/
theorem mem_base36Digits {n : Nat} {c : Char} (h : c ∈ base36Digits n) : c ∈ base36Alphabet := by
  fun_induction base36Digits n with
  | case1 => simp at h
  | case2 n hn ih =>
    rcases List.mem_append.1 h with h | h
    · exact ih h
    · rw [List.mem_singleton.1 h]
      exact base36Digit_mem _ (Nat.mod_lt n (by decide))

/-- A number other than zero has digits. -/
theorem base36Digits_ne_nil {n : Nat} (h : n ≠ 0) : base36Digits n ≠ [] := by
  rw [base36Digits, if_neg h]
  simp

/-- The first digit of a number is not zero. -/
theorem head?_base36Digits (n : Nat) : (base36Digits n).head? ≠ some '0' := by
  fun_induction base36Digits n with
  | case1 => simp
  | case2 n hn ih =>
    by_cases hsmall : n / 36 = 0
    · -- a single digit
      intro hzero
      rw [hsmall, base36Digits, if_pos rfl, List.nil_append, List.head?_cons] at hzero
      have := base36Digit_eq_zero _ (Nat.mod_lt n (by decide)) (Option.some.inj hzero)
      omega
    · rwa [List.head?_append_of_ne_nil _ (base36Digits_ne_nil hsmall)]

theorem toList_base36 {n : Nat} (h : n ≠ 0) : (base36 n).toList = base36Digits n := by
  rw [base36, if_neg h, String.toList_ofList]

/-- Only zero is written as zero. -/
theorem base36_eq_zero {n : Nat} : base36 n = "0" ↔ n = 0 := by
  refine ⟨fun hzero => Classical.byContradiction fun h => ?_, fun h => by rw [base36, if_pos h]⟩
  have hdigits := toList_base36 h
  rw [hzero] at hdigits
  exact head?_base36Digits n (hdigits ▸ rfl)

/-- A number is written as a numeral of its own. -/
theorem isNumeral_base36 (n : Nat) : IsNumeral (base36 n) n := by
  by_cases h : n = 0
  · rw [h]
    refine ⟨by decide, fun c hc => ?_, fun _ => rfl⟩
    obtain rfl : c = '0' := by simpa [base36] using hc
    exact base36Digit_mem 0 (by decide)
  -- another number is written without a leading zero
  · have hdigits := toList_base36 h
    have hnonempty : (base36 n).isEmpty = false := by
      rw [String.isEmpty_eq_false_iff, Ne, ← String.toList_eq_nil_iff, hdigits]
      exact base36Digits_ne_nil h
    refine ⟨?_, ?_, ?_⟩
    · rw [readBase36?, hnonempty, hdigits]
      exact readDigits?_base36Digits n
    · rw [hdigits]
      exact fun c => mem_base36Digits
    · rw [hdigits]
      exact fun hzero => absurd hzero (head?_base36Digits n)

/-- The hash of a text is the numeral of the absolute value of its polynomial, taken modulo `2 ^ 32`
into the signed range. -/
theorem rollingHash_polynomial (text : String) :
    ∃ s : Int, s ≡ hashPolynomial text.toList [ZMOD 2 ^ 32] ∧ -2 ^ 31 ≤ s ∧ s < 2 ^ 31 ∧
      IsNumeral (rollingHash text) s.natAbs ∧ s.natAbs ≤ 2 ^ 31 ∧
      (rollingHash text = "0" ↔ s = 0) := by
  obtain ⟨hlow, hhigh⟩ := signed_range (rollingWord text)
  refine ⟨signed (rollingWord text), ?_, hlow, hhigh, ?_, by omega, ?_⟩
  -- one reduction of the polynomial, and then one of the word
  · refine (signed_modEq _).trans ?_
    exact_mod_cast Int.natCast_modEq_iff.2 (toNat_rollingWord text)
  · rw [rollingHash, magnitude_eq]
    exact isNumeral_base36 _
  · rw [rollingHash, magnitude_eq, base36_eq_zero, Int.natAbs_eq_zero]

/-- The bound is reached, at the negative end of the range. -/
example : rollingHash "polygenelubricants" = base36 (2 ^ 31) := by cbv

end ODataService.EntityTag
