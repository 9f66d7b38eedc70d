import ODataService.Proofs.Text.Character
import ODataService.Proofs.Text.Utf8
import ODataService.Url.Percent

/-!
# Escaping and reading back

An escaped text is ASCII and denotes the bytes of the text, so it is read back as this text
(`Url.unescape_escape`). This holds whichever ASCII characters are kept besides the unreserved ones,
as long as a percent sign is not among them.
-/

namespace ODataService.Url

open Text

/-! ## Escaped bytes -/

theorem hexValue?_toUpper : ∀ m < 16, hexValue? (Nat.digitChar m).toUpper = some m := by decide

theorem isUnreserved_toUpper : ∀ m < 16, isUnreserved (Nat.digitChar m).toUpper = true := by decide

/-- A byte has two digits. -/
theorem escapeByte_eq (b : UInt8) :
    escapeByte b = ['%', (hexDigit (b.toNat / 16)).toUpper, (hexDigit b.toNat).toUpper] := rfl

/-- An escaped byte is read as this byte, and reading goes on behind it. -/
theorem unescapeRun_escapeByte (b : UInt8) (rest : List Char) :
    unescapeRun (escapeByte b ++ rest) = b :: unescapeRun rest := by
  have hdigit (m : Nat) : hexValue? (hexDigit m).toUpper = some (m % 16) :=
    hexValue?_toUpper _ (Nat.mod_lt m (by omega))
  have hb : b.toNat < 256 := b.toNat_lt
  -- the two digits are put together to the byte
  have hbyte : escapedByte? (hexDigit (b.toNat / 16)).toUpper (hexDigit b.toNat).toUpper =
      some b := by
    have hvalue : b.toNat / 16 % 16 * 16 + b.toNat % 16 = b.toNat := by omega
    simp only [escapedByte?, hdigit, Option.bind_eq_bind, Option.bind_some, hvalue,
      UInt8.ofNat_toNat]
    rfl
  rw [escapeByte_eq, List.cons_append, List.cons_append, List.cons_append, List.nil_append,
    unescapeRun, hbyte]

/-- Escaped bytes are read one after the other. -/
theorem unescapeRun_escapeBytes (bs : List UInt8) (rest : List Char) :
    unescapeRun (bs.flatMap escapeByte ++ rest) = bs ++ unescapeRun rest := by
  induction bs with
  | nil => rfl
  | cons b bs ih =>
    rw [List.flatMap_cons, List.append_assoc, unescapeRun_escapeByte, ih, List.cons_append]

/-- A character other than the percent sign stands for itself. -/
theorem unescapeRun_cons {c : Char} (h : c ≠ '%') (cs : List Char) :
    unescapeRun (c :: cs) = UInt8.ofNat c.toNat :: unescapeRun cs := by
  rw [unescapeRun]
  rintro _ _ _ rfl
  exact absurd rfl h

/-! ## Characters of an escaped text -/

variable {kept : List Char}

/-- The characters that are never escaped. -/
theorem isUnreserved_iff {c : Char} :
    isUnreserved c = true ↔ c.isAlphanum = true ∨ c = '_' ∨ c = '.' ∨ c = '-' ∨ c = '~' := by
  simp [isUnreserved, or_assoc]

/-- Unreserved characters are visible ones of the ASCII range. -/
theorem toNat_of_isUnreserved {c : Char} (h : isUnreserved c = true) :
    0x20 < c.toNat ∧ c.toNat < 0x7F := by
  rcases isUnreserved_iff.1 h with h | rfl | rfl | rfl | rfl
  · rw [Char.isAlphanum, Bool.or_eq_true, isAlpha_iff_toNat, isDigit_iff_toNat] at h
    omega
  all_goals decide

/-- Which characters are not escaped. -/
theorem stays_iff {c : Char} :
    (isUnreserved c || kept.contains c) = true ↔ isUnreserved c = true ∨ c ∈ kept := by
  rw [Bool.or_eq_true, List.contains_iff_mem]

/-- Besides the characters that stand for themselves an escaped text only has percent signs. -/
theorem mem_escape {c : Char} {cs : List Char} (h : c ∈ escape kept cs) :
    isUnreserved c = true ∨ c ∈ kept ∨ c = '%' := by
  rw [escape, List.mem_flatMap] at h
  obtain ⟨d, -, hc⟩ := h
  split at hc
  -- a character that stays is unreserved or kept, the others become percent signs and digits
  · next hd =>
    rw [List.mem_singleton.1 hc]
    exact (stays_iff.1 hd).imp_right .inl
  · obtain ⟨b, -, hc⟩ := List.mem_flatMap.1 hc
    have hdigit (m : Nat) : isUnreserved (hexDigit m).toUpper = true :=
      isUnreserved_toUpper _ (Nat.mod_lt m (by omega))
    rw [escapeByte_eq, List.mem_cons, List.mem_cons, List.mem_singleton] at hc
    rcases hc with rfl | rfl | rfl
    · exact .inr (.inr rfl)
    · exact .inl (hdigit _)
    · exact .inl (hdigit _)

theorem escape_append (kept cs ds : List Char) :
    escape kept (cs ++ ds) = escape kept cs ++ escape kept ds := List.flatMap_append

/-- A text of characters that stand for themselves is left as it is. -/
theorem escape_eq_self {cs : List Char} (h : ∀ c ∈ cs, isUnreserved c = true ∨ c ∈ kept) :
    escape kept cs = cs := by
  induction cs with
  | nil => rfl
  | cons c cs ih =>
    rw [List.forall_mem_cons] at h
    rw [escape, List.flatMap_cons, if_pos (stays_iff.2 h.1), ← escape, ih h.2, List.singleton_append]

/-! ## Reading back -/

/-- An escaped text denotes the bytes of the text. -/
theorem unescapeRun_escape (hkept : ∀ c ∈ kept, c.toNat < 0x80 ∧ c ≠ '%') (cs : List Char) :
    unescapeRun (escape kept cs) = Utf8.encode cs := by
  induction cs with
  | nil => rfl
  | cons c cs ih =>
    rw [escape, List.flatMap_cons, ← escape, Utf8.encode, List.flatMap_cons, ← Utf8.encode, ← ih]
    split
    · next hc =>
      -- a character that stays is ASCII and no percent sign, so it is one byte
      have hself : c.toNat < 0x80 ∧ c ≠ '%' := by
        rcases stays_iff.1 hc with hc | hc
        · have hascii := toNat_of_isUnreserved hc
          exact ⟨by omega, by rintro rfl; exact absurd hc (by decide)⟩
        · exact hkept c hc
      have hone : String.utf8EncodeChar c = [UInt8.ofNat c.toNat] := by
        have hval : c.val.toNat ≤ 0x7F := Nat.le_of_lt_succ hself.1
        rw [String.utf8EncodeChar, if_pos hval]
        rfl
      rw [hone, List.singleton_append, List.singleton_append, unescapeRun_cons hself.2]
    · rw [unescapeRun_escapeBytes, Utf8.toList_toUTF8, Utf8.encode, List.flatMap_singleton]

/-- The bytes of an ASCII text are read together. -/
theorem unescapeFrom_ascii {cs : List Char} (h : ∀ c ∈ cs, c.toNat < 0x80) (run : List Char) :
    unescapeFrom run cs = Utf8.decode (unescapeRun (run.reverse ++ cs)) := by
  induction cs generalizing run with
  | nil => rw [unescapeFrom, List.append_nil]
  | cons c cs ih =>
    -- an ASCII character goes on with the run
    rw [List.forall_mem_cons] at h
    rw [unescapeFrom, if_pos h.1, ih h.2, List.reverse_cons, List.append_assoc,
      List.singleton_append]

/-- An escaped text is read back as it was. -/
theorem unescape_escape (hkept : ∀ c ∈ kept, c.toNat < 0x80 ∧ c ≠ '%') (cs : List Char) :
    unescape (escape kept cs) = cs := by
  -- an escaped text is ASCII, so it is one run
  have hascii : ∀ c ∈ escape kept cs, c.toNat < 0x80 := by
    intro c hc
    rcases mem_escape hc with hc | hc | rfl
    · have := toNat_of_isUnreserved hc
      omega
    · exact (hkept c hc).1
    · decide
  rw [unescape, unescapeFrom_ascii hascii, List.reverse_nil, List.nil_append,
    unescapeRun_escape hkept, Utf8.decode_encode]

end ODataService.Url
