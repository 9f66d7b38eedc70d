import ODataService.Text.Blank
import ODataService.Text.Digit

/-!
# Characters of the ASCII range

Letters, digits and blanks by their code points, and the digits of a number: they are read back as
that number (`decimalValue_toDigits`).
-/

namespace ODataService.Text

theorem isDigit_iff_toNat {c : Char} : c.isDigit = true ↔ 0x30 ≤ c.toNat ∧ c.toNat ≤ 0x39 := by
  simp [Char.isDigit, UInt32.le_iff_toNat_le]

/-- The ASCII letters, by their code points. -/
theorem isAlpha_iff_toNat {c : Char} :
    c.isAlpha = true ↔
      (0x41 ≤ c.toNat ∧ c.toNat ≤ 0x5A) ∨ (0x61 ≤ c.toNat ∧ c.toNat ≤ 0x7A) := by
  have hupper : c.isUpper = decide (c.val ≥ 'A'.val ∧ c.val ≤ 'Z'.val) := rfl
  have hlower : c.isLower = (decide (c.val ≥ 'a'.val) && decide (c.val ≤ 'z'.val)) := rfl
  have halpha : c.isAlpha = (c.isUpper || c.isLower) := rfl
  simp [halpha, hupper, hlower, UInt32.le_iff_toNat_le]

/-- Visible characters of the ASCII range are not blank. -/
theorem isBlank_eq_false {c : Char} (h : 0x20 < c.toNat) (h' : c.toNat < 0x80) :
    isBlank c = false := by
  simp only [isBlank, Bool.or_eq_false_iff, Bool.and_eq_false_iff, decide_eq_false_iff_not,
    beq_eq_false_iff_ne]
  omega

/-- A digit is no blank. -/
theorem isBlank_of_isDigit {c : Char} (h : c.isDigit = true) : isBlank c = false := by
  obtain ⟨hlow, hhigh⟩ := isDigit_iff_toNat.mp h
  exact isBlank_eq_false (by omega) (by omega)

/-! ## Digits -/

/-- The value of an ASCII digit is its distance from the zero. -/
theorem digitValue?_of_isDigit {c : Char} (h : c.isDigit = true) :
    digitValue? c = some (c.toNat - 0x30) := by
  obtain ⟨-, hhigh⟩ := isDigit_iff_toNat.mp h
  rw [digitValue?, if_pos (by omega), if_pos h]

theorem isDecimal_of_isDigit {c : Char} (h : c.isDigit = true) : isDecimal c = true := by
  simp [isDecimal, digitValue?_of_isDigit h]

/-- In the ASCII range the digits are the only decimal digits. -/
theorem isDecimal_eq_false {c : Char} (h : c.toNat < 0x80) (hd : c.isDigit = false) :
    isDecimal c = false := by
  simp [isDecimal, digitValue?, h, hd]

/-- A number is written with ASCII digits. -/
theorem isDigit_of_mem_toDigits {n : Nat} {c : Char} (h : c ∈ Nat.toDigits 10 n) :
    c.isDigit = true :=
  Nat.isDigit_of_mem_toDigits (by omega) (by omega) h

theorem intText_ofNat (n : Nat) : (toString (Int.ofNat n)).toList = Nat.toDigits 10 n :=
  Nat.toList_repr

/-- A negative number is written with a minus and the digits of its amount. -/
theorem intText_negSucc (n : Nat) :
    (toString (Int.negSucc n)).toList = '-' :: Nat.toDigits 10 (n + 1) := by
  change ("-" ++ Nat.repr (n + 1)).toList = _
  rw [String.toList_append, Nat.toList_repr]
  rfl

/-- The text of an integer has digits, and a minus sign for a negative one. -/
theorem mem_intText {n : Int} {c : Char} (h : c ∈ (toString n).toList) :
    c = '-' ∨ c.isDigit = true := by
  cases n with
  | ofNat m =>
    rw [intText_ofNat] at h
    exact .inr (isDigit_of_mem_toDigits h)
  | negSucc m =>
    rw [intText_negSucc, List.mem_cons] at h
    exact h.imp_right isDigit_of_mem_toDigits

/-- The digits of a number are read as that number. -/
theorem decimalValue_toDigits (n : Nat) : decimalValue (Nat.toDigits 10 n) = n := by
  -- on ASCII digits the reader is the one of the library, from any value on
  have hfold : ∀ (cs : List Char) (m : Nat), (∀ c ∈ cs, c.isDigit = true) →
      cs.foldl (fun n c => n * 10 + (digitValue? c).getD 0) m = Nat.ofDigitChars 10 cs m := by
    intro cs
    induction cs with
    | nil => intro m _; rw [List.foldl_nil, Nat.ofDigitChars_nil]
    | cons c cs ih =>
      intro m h
      have hc := digitValue?_of_isDigit (h c (List.mem_cons_self ..))
      rw [List.foldl_cons, Nat.ofDigitChars_cons, hc, Option.getD_some, Nat.mul_comm m 10]
      exact ih _ fun d hd => h d (List.mem_cons_of_mem _ hd)
  rw [decimalValue, hfold _ 0 fun c hc => isDigit_of_mem_toDigits hc,
    Nat.ofDigitChars_ten_toDigits]

/-- Different integers have different texts. -/
theorem intText_inj {m n : Int} : (toString m).toList = (toString n).toList ↔ m = n := by
  -- the digits can be read back, and none of them is a minus
  have hNat : ∀ {a b : Nat}, Nat.toDigits 10 a = Nat.toDigits 10 b → a = b := by
    intro a b h
    rw [← decimalValue_toDigits a, h, decimalValue_toDigits]
  have hMinus : ∀ {a b : Nat}, Nat.toDigits 10 a ≠ '-' :: Nat.toDigits 10 b := by
    intro a b h
    have := isDigit_of_mem_toDigits (n := a) (h ▸ List.mem_cons_self)
    contradiction
  constructor
  · intro h
    cases m with
    | ofNat m =>
      cases n with
      -- of one sign the digits decide
      | ofNat n =>
        rw [intText_ofNat, intText_ofNat] at h
        rw [hNat h]
      | negSucc n =>
        rw [intText_ofNat, intText_negSucc] at h
        exact absurd h hMinus
    | negSucc m =>
      cases n with
      | ofNat n =>
        rw [intText_negSucc, intText_ofNat] at h
        exact absurd h.symm hMinus
      | negSucc n =>
        rw [intText_negSucc, intText_negSucc, List.cons.injEq] at h
        have := hNat h.2
        omega
  · rintro rfl
    rfl

end ODataService.Text
