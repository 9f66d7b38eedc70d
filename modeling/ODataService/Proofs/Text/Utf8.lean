import ODataService.Text.Utf8

/-!
# Texts as UTF-8

What `Utf8.decode` reads from the bytes of a text is this text (`Utf8.decode_encode`). A character of
several bytes is read in steps: the first byte gives the highest bits and how many bytes follow, and
each of the others gives six more bits. That the other bytes are within the bounds that the first one
sets is where overlong forms, surrogates and code points beyond the last would be refused.
-/

namespace ODataService.Text.Utf8

/-- The bytes of a text. -/
def encode (cs : List Char) : List UInt8 := cs.flatMap String.utf8EncodeChar

/-- The loop behind the list of bytes puts the bytes from a place on behind those it has. -/
theorem bytes_loop (bs : ByteArray) (place : Nat) (behind : List UInt8) :
    ByteArray.toList.loop bs place behind = behind.reverse ++ bs.data.toList.drop place := by
  fun_induction ByteArray.toList.loop bs place behind with
  | case1 place behind hlt ih =>
    -- the byte at the place is the first of those left
    have hbyte : bs.data.toList.drop place = bs.get! place :: bs.data.toList.drop (place + 1) := by
      have hplace : place < bs.data.toList.length := by simpa using hlt
      rw [List.drop_eq_getElem_cons hplace, List.cons.injEq]
      exact ⟨(getElem!_pos bs.data place (by simpa using hlt)).symm, rfl⟩
    rw [ih, hbyte, List.reverse_cons, List.append_assoc, List.singleton_append]
  | case2 place behind hend =>
    have hnone : bs.data.toList.drop place = [] := List.drop_eq_nil_iff.2 (by simpa using hend)
    rw [hnone, List.append_nil]

/-- The bytes of a text are those of its characters, one after the other. -/
theorem toList_toUTF8 (cs : List Char) : (String.ofList cs).toUTF8.toList = encode cs := by
  rw [ByteArray.toList, bytes_loop, List.reverse_nil, List.nil_append, List.drop_zero]
  exact List.toList_data_toByteArray

/-! ## First bytes -/

variable {b : UInt8}

theorem start_ascii (h : b.toNat < 0x80) : start b = ([Char.ofNat b.toNat], none) := by
  rw [start, if_pos h]

/-- A byte from `0xC2` to `0xDF` starts a character of two bytes. -/
theorem start_two (hlow : 0xC2 ≤ b.toNat) (hhigh : b.toNat ≤ 0xDF) :
    start b = ([], some ⟨b.toNat - 0xC0, 1, 0x80, 0xBF⟩) := by
  have hne : ¬ b.toNat < 0x80 := by omega
  rw [start, if_neg hne, if_pos (by simp [hlow, hhigh])]

/-- The second byte has bounds of its own behind the least first byte, against overlong forms, and
behind the one in front of surrogates. -/
theorem start_three (hlow : 0xE0 ≤ b.toNat) (hhigh : b.toNat ≤ 0xEF) :
    start b = ([], some ⟨b.toNat - 0xE0, 2, if b.toNat = 0xE0 then 0xA0 else 0x80,
      if b.toNat = 0xED then 0x9F else 0xBF⟩) := by
  have hascii : ¬ b.toNat < 0x80 := by omega
  have htwo : ¬ b.toNat ≤ 0xDF := by omega
  have hone : 0xE1 ≤ b.toNat ↔ ¬ b.toNat = 0xE0 := by omega
  -- two of the first bytes narrow what may follow them
  by_cases h0 : b.toNat = 0xE0
  · simp [start, h0]
  · by_cases hD : b.toNat = 0xED
    · simp [start, hD]
    · simp [start, hascii, htwo, h0, hD, hone, hhigh]

/-- The second byte has bounds of its own behind the least first byte, against overlong forms, and
behind the greatest, in front of what lies beyond the last code point. -/
theorem start_four (hlow : 0xF0 ≤ b.toNat) (hhigh : b.toNat ≤ 0xF4) :
    start b = ([], some ⟨b.toNat - 0xF0, 3, if b.toNat = 0xF0 then 0x90 else 0x80,
      if b.toNat = 0xF4 then 0x8F else 0xBF⟩) := by
  have hcases : b.toNat = 0xF0 ∨ b.toNat = 0xF1 ∨ b.toNat = 0xF2 ∨ b.toNat = 0xF3 ∨
      b.toNat = 0xF4 := by omega
  rcases hcases with h | h | h | h | h <;> simp [start, h]

/-! ## Other bytes -/

/-- The last byte of a character. -/
theorem next_last {bits low high : Nat} (hlow : low ≤ b.toNat) (hhigh : b.toNat ≤ high) :
    next ⟨bits, 1, low, high⟩ b = ([Char.ofNat (bits * 0x40 + (b.toNat - 0x80))], none) := by
  simp [next, hlow, hhigh]

/-- A byte of a character with more behind it. -/
theorem next_more {bits missing low high : Nat} (hlow : low ≤ b.toNat) (hhigh : b.toNat ≤ high) :
    next ⟨bits, missing + 2, low, high⟩ b =
      ([], some ⟨bits * 0x40 + (b.toNat - 0x80), missing + 1, 0x80, 0xBF⟩) := by
  simp [next, hlow, hhigh]

/-! ## Characters -/

/-- A character is no surrogate and no code point beyond the last. -/
theorem toNat_cases (c : Char) : c.toNat < 0xD800 ∨ 0xDFFF < c.toNat ∧ c.toNat < 0x110000 :=
  c.valid

/-- The bytes of a character are read as this character, and reading goes on behind them. -/
theorem decodeFrom_encodeChar (c : Char) (rest : List UInt8) :
    decodeFrom none (String.utf8EncodeChar c ++ rest) = c :: decodeFrom none rest := by
  -- a character is no surrogate, which the second byte of three depends on
  have hvalid := toNat_cases c
  have hval : c.val.toNat = c.toNat := rfl
  have hbyte {n : Nat} (h : n < 0x100) : (UInt8.ofNat n).toNat = n := by
    simpa using Nat.mod_eq_of_lt h
  have hchar {n : Nat} (h : n = c.toNat) : Char.ofNat n = c := by rw [h, Char.ofNat_toNat]
  -- one case for each number of bytes: each byte is computed, then read
  simp only [String.utf8EncodeChar, hval]
  split
  · next h1 =>
    have hb := hbyte (n := c.toNat) (by omega)
    rw [List.cons_append, List.nil_append, decodeFrom, start_ascii (by omega), hb, hchar rfl]
    rfl
  · split
    · next h1 h2 =>
      have hb₁ := hbyte (n := c.toNat / 64 % 32 + 192) (by omega)
      have hb₂ := hbyte (n := c.toNat % 64 + 128) (by omega)
      rw [List.cons_append, List.cons_append, List.nil_append, decodeFrom,
        start_two (by omega) (by omega), decodeFrom, next_last (by omega) (by omega), hb₁, hb₂,
        hchar (by omega)]
      rfl
    · split
      · next h1 h2 h3 =>
        have hb₁ := hbyte (n := c.toNat / 4096 % 16 + 224) (by omega)
        have hb₂ := hbyte (n := c.toNat / 64 % 64 + 128) (by omega)
        have hb₃ := hbyte (n := c.toNat % 64 + 128) (by omega)
        rw [List.cons_append, List.cons_append, List.cons_append, List.nil_append, decodeFrom,
          start_three (by omega) (by omega), decodeFrom,
          next_more (by split <;> omega) (by split <;> omega), decodeFrom,
          next_last (by omega) (by omega), hb₁, hb₂, hb₃, hchar (by omega)]
        rfl
      · next h1 h2 h3 =>
        have hb₁ := hbyte (n := c.toNat / 262144 % 8 + 240) (by omega)
        have hb₂ := hbyte (n := c.toNat / 4096 % 64 + 128) (by omega)
        have hb₃ := hbyte (n := c.toNat / 64 % 64 + 128) (by omega)
        have hb₄ := hbyte (n := c.toNat % 64 + 128) (by omega)
        rw [List.cons_append, List.cons_append, List.cons_append, List.cons_append,
          List.nil_append, decodeFrom, start_four (by omega) (by omega), decodeFrom,
          next_more (by split <;> omega) (by split <;> omega), decodeFrom,
          next_more (by omega) (by omega), decodeFrom, next_last (by omega) (by omega), hb₁, hb₂,
          hb₃, hb₄, hchar (by omega)]
        rfl

/-- The bytes of a text are read as this text. -/
theorem decode_encode (cs : List Char) : decode (encode cs) = cs := by
  rw [decode, encode]
  induction cs with
  | nil => rfl
  | cons c cs ih => rw [List.flatMap_cons, decodeFrom_encodeChar, ih]

end ODataService.Text.Utf8
