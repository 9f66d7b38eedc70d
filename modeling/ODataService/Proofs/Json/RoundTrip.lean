import ODataService.Proofs.Assoc
import ODataService.Proofs.Json.Nesting
import ODataService.Proofs.Text.Character
import ODataService.Proofs.Text.Splitting

/-!
# JSON texts are read back

Writing a value and reading the text gives the value back (`Json.parse_write_readable`), whatever
texts are in it: the writer escapes all that is not ASCII as UTF-16 units, and the reader joins the
units again. Two kinds of values are left out. Numbers with a fraction are one, and the other are
objects that a text cannot show: those with two members of one name, and those with names that are
no texts.

The reader goes by a bound on its steps. A text of `n` characters needs no more than `2 * n`.
-/

namespace ODataService.Json

/-! ## Digits -/

theorem hexValue?_digitChar : ∀ n < 16, hexValue? (Nat.digitChar n) = some n := by decide

/-- Four hexadecimal digits hold sixteen bits. -/
theorem hex4?_hexDigits {n : Nat} (h : n < 0x10000) :
    ∃ a b c d, Text.hexDigits 4 n = [a, b, c, d] ∧ hex4? a b c d = some n := by
  refine ⟨_, _, _, _, rfl, ?_⟩
  have hdigit (m : Nat) : hexValue? (Text.hexDigit m) = some (m % 16) :=
    hexValue?_digitChar _ (Nat.mod_lt m (by omega))
  simp only [hex4?, hdigit, Option.bind_eq_bind, Option.bind_some]
  exact congrArg some (by omega)

/-- Of the digits of a number only that of zero starts with a zero. -/
theorem head?_toDigits {n : Nat} (h : 0 < n) : (Nat.toDigits 10 n).head? ≠ some '0' := by
  induction n using Nat.strongRecOn with
  | ind n ih =>
    have hdigit : ∀ m < 10, 0 < m → Nat.digitChar m ≠ '0' := by decide
    rw [Nat.toDigits_eq_if (by omega)]
    split
    · next hn => simpa using hdigit n hn h
    · next hn =>
      -- the last digit is split off, and the others are those of a smaller number
      have hhead := ih (n / 10) (by omega) (by omega)
      rw [List.head?_append_of_ne_nil _ Nat.toDigits_ne_nil]
      exact hhead

/-- The decimal digits of a number have it as their value. -/
theorem digitsValue_toDigits (n : Nat) : digitsValue (Nat.toDigits 10 n) = n := by
  -- Horner's rule, which the library states for its own fold
  have hfold : ∀ (cs : List Char) (m : Nat),
      cs.foldl (fun n c => n * 10 + (c.toNat - 0x30)) m = Nat.ofDigitChars 10 cs m := by
    intro cs
    induction cs with
    | nil => intro m; rw [List.foldl_nil, Nat.ofDigitChars_nil]
    | cons c cs ih =>
      intro m
      rw [List.foldl_cons, Nat.ofDigitChars_cons, ih, Nat.mul_comm m 10]
      rfl
  rw [digitsValue, hfold, Nat.ofDigitChars_ten_toDigits]

/-! ## Strings -/

/-- The UTF-16 units of a character. -/
def charUnits (c : Char) : List Nat :=
  if c.toNat < 0x10000 then [c.toNat]
  else [0xD800 + (c.toNat - 0x10000) / 0x400, 0xDC00 + (c.toNat - 0x10000) % 0x400]

/-- No character is half of a pair of units. -/
theorem not_surrogate (c : Char) : ¬ (0xD800 ≤ c.toNat ∧ c.toNat < 0xE000) := by
  rcases c.valid with hlow | hhigh
  · have : c.toNat < 0xD800 := hlow
    omega
  · have : 0xDFFF < c.toNat := hhigh.1
    omega

/-- The code units of a character are joined to it. -/
theorem joinUnits_charUnits (c : Char) (ns : List Nat) :
    joinUnits (charUnits c ++ ns) = c :: joinUnits ns := by
  unfold charUnits
  split
  · have hc : ¬ (0xD800 ≤ c.toNat ∧ c.toNat < 0xE000) := not_surrogate c
    -- a unit that is no surrogate stands for itself, whatever the next one is
    cases ns with
    | nil => simp [joinUnits, hc]
    | cons l ns =>
      have hpair : ¬ (0xD800 ≤ c.toNat ∧ c.toNat < 0xDC00 ∧ 0xDC00 ≤ l ∧ l < 0xE000) := by omega
      simp [joinUnits, hc]
      omega
  · next hc =>
    -- the two units are halves of a pair and hold the bits of the character
    have htop : c.toNat < 0x110000 := by
      rcases c.valid with hlow | hhigh
      · have : c.toNat < 0xD800 := hlow
        omega
      · exact hhigh.2
    have hhigh : (0xD800 ≤ 0xD800 + (c.toNat - 0x10000) / 0x400 &&
        0xD800 + (c.toNat - 0x10000) / 0x400 < 0xDC00 &&
        0xDC00 ≤ 0xDC00 + (c.toNat - 0x10000) % 0x400 &&
        0xDC00 + (c.toNat - 0x10000) % 0x400 < 0xE000) = true := by
      simp only [Bool.and_eq_true, decide_eq_true_eq]
      omega
    have hvalue : 0x10000 + (0xD800 + (c.toNat - 0x10000) / 0x400 - 0xD800) * 0x400 +
        (0xDC00 + (c.toNat - 0x10000) % 0x400 - 0xDC00) = c.toNat := by omega
    simp only [List.cons_append, List.nil_append]
    rw [joinUnits, if_pos hhigh, hvalue, Char.ofNat_toNat]

/-- The code units of a text are joined to it. -/
theorem joinUnits_flatMap (cs : List Char) : joinUnits (cs.flatMap charUnits) = cs := by
  induction cs with
  | nil => rfl
  | cons c cs ih => rw [List.flatMap_cons, joinUnits_charUnits, ih]

/-- Units in front of those that are read. -/
def prependUnits (ns : List Nat) (read : List Nat × Cursor) : List Nat × Cursor :=
  (ns ++ read.1, read.2)

/-- The escape of a unit is read as that unit if something follows. -/
theorem stringUnits_escapeUnit {n : Nat} (hn : n < 0x10000) {rest : List Char} (hrest : rest ≠ [])
    (start position : Nat) :
    stringUnits start position (escapeUnit n ++ rest) =
      (stringUnits start (position + 6) rest).map (prependUnits [n]) := by
  obtain ⟨a, b, c, d, hdigits, hvalue⟩ := hex4?_hexDigits hn
  obtain ⟨e, cs, rfl⟩ := List.exists_cons_of_ne_nil hrest
  rw [escapeUnit, hdigits]
  simp only [List.cons_append, List.nil_append, stringUnits, hvalue]
  rcases stringUnits start (position + 6) (e :: cs) with _ | ⟨ns, cur⟩ <;> rfl

/-- A character that is written with a backslash and a letter. -/
theorem stringUnits_simpleEscape {c : Char} {n : Nat} (hc : c ≠ 'u') (hn : simpleEscape? c = some n)
    (rest : List Char) (start position : Nat) :
    stringUnits start position ('\\' :: c :: rest) =
      (stringUnits start (position + 2) rest).map (prependUnits [n]) := by
  rw [stringUnits]
  · simp only [if_neg hc, hn]
    rcases stringUnits start (position + 2) rest with _ | ⟨ns, cur⟩ <;> rfl
  · intro a b c' d e cs h _
    exact absurd h hc

/-- A character that is written as it is. -/
theorem stringUnits_plain {c : Char} (hquote : c ≠ '"') (hback : c ≠ '\\') (hc : 0x20 ≤ c.toNat)
    (rest : List Char) (start position : Nat) :
    stringUnits start position (c :: rest) =
      (stringUnits start (position + 1) rest).map (prependUnits [c.toNat]) := by
  rw [stringUnits]
  · rw [if_neg (by omega)]
    rcases stringUnits start (position + 1) rest with _ | ⟨ns, cur⟩ <;> rfl
  -- all other cases of the reader are about a quote or a backslash
  · exact hquote
  · intro h _
    exact absurd h hback
  · intro a b c' d e cs h _
    exact absurd h hback
  · intro c' cs h _
    exact absurd h hback

/-- What is written for a character is read as its units. -/
theorem stringUnits_escapeChar (c : Char) (rest : List Char) (hrest : rest ≠ [])
    (start position : Nat) :
    ∃ position', stringUnits start position (escapeChar c ++ rest) =
      (stringUnits start position' rest).map (prependUnits (charUnits c)) := by
  have hunit (h : c.toNat < 0x10000) : charUnits c = [c.toNat] := if_pos h
  -- the escapes of a letter are all below the first printable character
  have hsimple {letter : Char} (hc : c.toNat < 0x80) (hu : letter ≠ 'u')
      (hl : simpleEscape? letter = some c.toNat) :
      ∃ position', stringUnits start position (['\\', letter] ++ rest) =
        (stringUnits start position' rest).map (prependUnits (charUnits c)) :=
    ⟨position + 2, by rw [hunit (by omega)]; exact stringUnits_simpleEscape hu hl rest _ _⟩
  unfold escapeChar
  -- quote, backslash and five control characters have a letter each
  split
  · next h => subst h; exact hsimple (by decide) (by decide) rfl
  split
  · next h => subst h; exact hsimple (by decide) (by decide) rfl
  split
  · next h => subst h; exact hsimple (by decide) (by decide) rfl
  split
  · next h => subst h; exact hsimple (by decide) (by decide) rfl
  split
  · next h => subst h; exact hsimple (by decide) (by decide) rfl
  split
  · next h => exact hsimple (by omega) (by decide) (by rw [h]; rfl)
  split
  · next h => exact hsimple (by omega) (by decide) (by rw [h]; rfl)
  split
  · next hquote hback _ _ _ _ _ h =>
    rw [Bool.and_eq_true, decide_eq_true_eq, decide_eq_true_eq] at h
    rw [hunit (by omega)]
    exact ⟨position + 1, stringUnits_plain hquote hback h.1 rest _ _⟩
  -- what is left is written as numbers of units
  split
  · next h =>
    rw [hunit h]
    exact ⟨position + 6, stringUnits_escapeUnit h hrest _ _⟩
  · next h =>
    -- beyond the first plane there are two escapes, one for each half of the pair
    have htop : c.toNat < 0x110000 := by
      rcases c.valid with hlow | hhigh
      · have : c.toNat < 0xD800 := hlow
        omega
      · exact hhigh.2
    have hpair : charUnits c = [0xD800 + (c.toNat - 0x10000) / 0x400] ++
        [0xDC00 + (c.toNat - 0x10000) % 0x400] := if_neg h
    refine ⟨position + 6 + 6, ?_⟩
    rw [List.append_assoc, stringUnits_escapeUnit (by omega) (by simp [escapeUnit]),
      stringUnits_escapeUnit (by omega) hrest, hpair]
    rcases stringUnits start (position + 6 + 6) rest with _ | ⟨ns, cur⟩ <;> rfl

/-- A string is read back from its text, whatever follows. -/
theorem readString_writeString (s : String) (rest : List Char) (position : Nat) :
    ∃ position', readString ⟨position, (writeString s).toList ++ rest⟩ =
      .ok (s, ⟨position', rest⟩) := by
  -- the position is handed on from character to character, but nothing depends on it
  have hunits : ∀ (cs : List Char) (start position : Nat), ∃ position',
      stringUnits start position (cs.flatMap escapeChar ++ '"' :: rest) =
        .ok (cs.flatMap charUnits, ⟨position', rest⟩) := by
    intro cs
    induction cs with
    | nil => exact fun start position => ⟨position + 1, rfl⟩
    | cons c cs ih =>
      intro start position
      obtain ⟨next, hnext⟩ := stringUnits_escapeChar c
        (cs.flatMap escapeChar ++ '"' :: rest) (by simp) start position
      obtain ⟨last, hlast⟩ := ih start next
      refine ⟨last, ?_⟩
      rw [List.flatMap_cons, List.append_assoc, hnext, hlast]
      rfl
  obtain ⟨last, hlast⟩ := hunits s.toList position (position + 1)
  refine ⟨last, ?_⟩
  -- what stands behind the opening quote
  have htext : ((writeString s).toList ++ rest).drop 1 =
      s.toList.flatMap escapeChar ++ '"' :: rest := by
    simp [writeString]
  rw [readString, htext, hlast]
  show Except.ok (String.ofList (joinUnits (s.toList.flatMap charUnits)), _) = _
  rw [joinUnits_flatMap, String.ofList_toList]

/-! ## Words and numbers -/

/-- What may stand behind a value: nothing, or what ends a part of an array or object. -/
def Closes (rest : List Char) : Prop := ∀ c ∈ rest.head?, c = ',' ∨ c = ']' ∨ c = '}'

theorem closes_nil : Closes [] := by simp [Closes]

/-- A comma and the two closing brackets close a value. -/
theorem closes_cons {c : Char} (h : c = ',' ∨ c = ']' ∨ c = '}') (cs : List Char) :
    Closes (c :: cs) := by
  simpa [Closes] using h

variable {c : Char} {cs rest : List Char} {n : Nat}

/-- Behind a value no digit follows, and nothing that belongs to a number. -/
theorem Closes.not_number (h : Closes rest) :
    (∀ c ∈ rest.head?, c.isDigit = false) ∧ fractionDigits rest = [] ∧
      exponentPart rest = none := by
  -- neither a digit nor a point nor an exponent goes on
  cases rest with
  | nil => exact ⟨by simp, rfl, rfl⟩
  | cons c cs =>
    rcases h c rfl with rfl | rfl | rfl
    · exact ⟨by simp, rfl, rfl⟩
    · exact ⟨by simp, rfl, rfl⟩
    · exact ⟨by simp, rfl, rfl⟩

/-- The words start with two characters that are no digits. -/
theorem namedValues_start :
    ∀ e ∈ namedValues, ∃ a b cs, e.1.toList = a :: b :: cs ∧ a.isDigit = false ∧
      b.isDigit = false := by
  -- the words are few, so that their first two characters can be looked at
  have hstart : ∀ e ∈ namedValues, 2 ≤ e.1.toList.length ∧
      (e.1.toList.take 2).all (!·.isDigit) = true := by decide
  intro e he
  obtain ⟨hlength, hdigits⟩ := hstart e he
  match hchars : e.1.toList with
  | [] => simp [hchars] at hlength
  | [_] => simp [hchars] at hlength
  | a :: b :: cs =>
    rw [hchars] at hdigits
    refine ⟨a, b, cs, rfl, ?_⟩
    simpa using hdigits

/-- The digits of a number are read up to what is no digit. -/
theorem integerDigits_toDigits (n : Nat) (hrest : ∀ c ∈ rest.head?, c.isDigit = false) :
    integerDigits (Nat.toDigits 10 n ++ rest) = Nat.toDigits 10 n := by
  have hdigits : ∀ c ∈ Nat.toDigits 10 n, c.isDigit = true :=
    fun c hc => Text.isDigit_of_mem_toDigits hc
  rcases Nat.eq_zero_or_pos n with rfl | hn
  · rfl
  · obtain ⟨c, cs, hchars⟩ := List.exists_cons_of_ne_nil (Nat.toDigits_ne_nil (n := n) (b := 10))
    have hzero : c ≠ '0' := by
      have hhead := head?_toDigits hn
      rw [hchars] at hhead
      simpa using hhead
    -- without a zero in front all digits up to the first other character belong to the number
    have htake := Text.takeWhile_append_rest hdigits hrest
    rw [hchars, List.cons_append] at htake ⊢
    rw [integerDigits]
    · exact htake
    · intro _ h
      exact absurd (List.cons.inj h).1 hzero

/-- An integer is read back from its sign and its digits. -/
theorem readLeaf_int (negative : Bool) (n : Nat) (hrest : Closes rest) (position : Nat) :
    ∃ position', readLeaf ⟨position, (if negative then ['-'] else []) ++
        (Nat.toDigits 10 n ++ rest)⟩ =
      .ok (.int (if negative then -n else n), ⟨position', rest⟩) := by
  obtain ⟨hdigit, hpart, hexponent⟩ := hrest.not_number
  have hwhole := integerDigits_toDigits n hdigit
  have hvalue := digitsValue_toDigits n
  obtain ⟨c, cs, hchars⟩ := List.exists_cons_of_ne_nil (Nat.toDigits_ne_nil (n := n) (b := 10))
  have hc : c.isDigit = true := Text.isDigit_of_mem_toDigits (n := n) (hchars ▸ .head _)
  have hsign : c ≠ '-' := by rintro rfl; simp at hc
  rw [hchars, List.cons_append] at hwhole ⊢
  rw [hchars] at hvalue
  -- a digit comes first or second, so it is none of the words
  have hfind : namedValues.find? (fun e => e.1.toList.isPrefixOf
      ((if negative then ['-'] else []) ++ c :: (cs ++ rest))) = none := by
    rw [List.find?_eq_none]
    intro e he hprefix
    obtain ⟨a, b, ds, hword, ha, hb⟩ := namedValues_start e he
    rw [List.isPrefixOf_iff_prefix, hword] at hprefix
    cases negative with
    | false =>
      obtain rfl : a = c := (List.cons_prefix_cons.1 hprefix).1
      simp [hc] at ha
    | true =>
      obtain rfl : b = c := (List.cons_prefix_cons.1 (List.cons_prefix_cons.1 hprefix).2).1
      simp [hc] at hb
  -- none of the words comes, so the number is read: digits, no fraction and no exponent
  unfold readLeaf
  rw [hfind]
  unfold readNumber
  cases negative with
  | false =>
    refine ⟨position + (cs.length + 1), ?_⟩
    simp only [Bool.false_eq_true, ↓reduceIte, List.nil_append]
    simp [hwhole, hpart, hexponent, hvalue, hsign, Cursor.advance]
  | true =>
    refine ⟨position + (1 + (cs.length + 1)), ?_⟩
    simp only [↓reduceIte, List.cons_append, List.nil_append]
    simp [hwhole, hpart, hexponent, hvalue, Cursor.advance, Nat.add_comm 1]

/-! ## Values -/

/-- The characters that texts of values start with. -/
def IsOpening (c : Char) : Prop :=
  c = '"' ∨ c = '[' ∨ c = '{' ∨ c = 'n' ∨ c = 't' ∨ c = 'f' ∨ c = '-' ∨ c.isDigit = true

instance (c : Char) : Decidable (IsOpening c) := inferInstanceAs (Decidable (_ ∨ _))

/-- What opens a value differs from what does not. -/
theorem IsOpening.ne {d : Char} (hc : IsOpening c) (hd : ¬ IsOpening d) : c ≠ d := by
  rintro rfl
  exact hd hc

/-- No white space opens a value. -/
theorem IsOpening.not_spacing (hc : IsOpening c) : isSpacing c = false := by
  have hne : c ≠ ' ' ∧ c ≠ '\t' ∧ c ≠ '\n' ∧ c ≠ '\r' :=
    ⟨hc.ne (by decide), hc.ne (by decide), hc.ne (by decide), hc.ne (by decide)⟩
  simp [isSpacing, hne]

/-- White space is skipped up to the first other character. -/
theorem skipSpacing_blanks (rest : List Char) {blanks : List Char}
    (hblanks : ∀ c ∈ blanks, isSpacing c = true)
    (hrest : ∀ c ∈ rest.head?, isSpacing c = false) (position : Nat) :
    ∃ position', Cursor.skipSpacing ⟨position, blanks ++ rest⟩ = ⟨position', rest⟩ := by
  refine ⟨position + ((blanks ++ rest).takeWhile isSpacing).length, ?_⟩
  have hdrop : (blanks ++ rest).dropWhile isSpacing = rest := by
    rw [List.dropWhile_append_of_pos hblanks]
    cases rest with
    | nil => rfl
    | cons c cs =>
      have hc : isSpacing c = false := hrest c rfl
      simp [hc]
  rw [Cursor.skipSpacing, hdrop]

/-- Where no white space comes nothing is skipped. -/
theorem skipSpacing_none (rest : List Char) (hrest : ∀ c ∈ rest.head?, isSpacing c = false)
    (position : Nat) :
    ∃ position', Cursor.skipSpacing ⟨position, rest⟩ = ⟨position', rest⟩ :=
  skipSpacing_blanks rest (fun _ hc => absurd hc List.not_mem_nil) hrest position

/-- The text is a mark and blanks behind it. -/
def IsMark (mark : Char) (text : String) : Prop :=
  ∃ blanks, text.toList = mark :: blanks ∧ ∀ c ∈ blanks, isSpacing c = true

/-- The separators that the reader knows. -/
structure Separators.Known (sep : Separators) : Prop where
  item : IsMark ',' sep.item
  colon : IsMark ':' sep.colon

/-- The separators of the log are known. -/
theorem Separators.known_spaced : Separators.spaced.Known := by
  have hblank : ∀ c ∈ [' '], isSpacing c = true := by simp [isSpacing]
  exact ⟨⟨[' '], rfl, hblank⟩, ⟨[' '], rfl, hblank⟩⟩

theorem Separators.known_compact : Separators.compact.Known :=
  ⟨⟨[], rfl, by simp⟩, ⟨[], rfl, by simp⟩⟩

/-- The value is read back from its text: no number in it has a fraction, and the members of each
object have distinct texts as names. -/
inductive Readable : Json → Prop
  | null : Readable .null
  | bool (b : Bool) : Readable (.bool b)
  | int (n : Int) : Readable (.int n)
  | str (s : String) : Readable (.str s)
  | arr {vs : List Json} (h : ∀ v ∈ vs, Readable v) : Readable (.arr vs)
  | obj (ms : Assoc Json) (hnames : (Assoc.keys ms).Nodup) (h : ∀ m ∈ ms, Readable m.2) :
    Readable (.obj (Keyed.ofAssoc ms))

/-- What reading the text of a value comes to where there is room for its levels, whatever stands
behind it. -/
def ReadsBack (sep : Separators) (v : Json) : Prop :=
  ∀ (fuel room position : Nat) (rest : List Char), 2 * (write sep v).toList.length ≤ fuel →
    levels v ≤ room → Closes rest →
      ∃ position', readValue fuel room ⟨position, (write sep v).toList ++ rest⟩ =
        .ok (v, ⟨position', rest⟩)

variable {sep : Separators} {v : Json}

/-- A string is written as its escaped characters between quotes. -/
theorem toList_writeString (s : String) :
    (writeString s).toList = '"' :: (s.toList.flatMap escapeChar ++ ['"']) := by
  simp [writeString]

/-- An array is written as its items between brackets. -/
theorem toList_write_arr (sep : Separators) (vs : List Json) :
    (write sep (.arr vs)).toList = '[' :: ((writeItems sep "" vs).toList ++ [']']) := by
  simp [write]

/-- An object is written as its members between braces. -/
theorem toList_write_obj (sep : Separators) (ms : List (Scalar × Json)) :
    (write sep (.obj ms)).toList = '{' :: ((writeMembers sep "" ms).toList ++ ['}']) := by
  simp [write]

/-- The text of a value starts with a character that opens one. -/
theorem Readable.opening (h : Readable v) (sep : Separators) :
    ∃ c cs, (write sep v).toList = c :: cs ∧ IsOpening c := by
  cases h with
  | null => exact ⟨'n', ['u', 'l', 'l'], by rw [write]; decide, by decide⟩
  | bool b =>
    cases b with
    | true => exact ⟨'t', ['r', 'u', 'e'], by rw [write]; decide, by decide⟩
    | false => exact ⟨'f', ['a', 'l', 's', 'e'], by rw [write]; decide, by decide⟩
  | int n =>
    cases n with
    | ofNat n =>
      obtain ⟨c, cs, hchars⟩ :=
        List.exists_cons_of_ne_nil (Nat.toDigits_ne_nil (n := n) (b := 10))
      have hc : c.isDigit = true := Text.isDigit_of_mem_toDigits (n := n) (hchars ▸ .head _)
      exact ⟨c, cs, (Text.intText_ofNat n).trans hchars, by simp [IsOpening, hc]⟩
    | negSucc n => exact ⟨'-', _, Text.intText_negSucc n, by decide⟩
  | str s => exact ⟨'"', _, toList_writeString s, by decide⟩
  | arr h => exact ⟨'[', _, toList_write_arr sep _, by decide⟩
  | obj ms hnames h => exact ⟨'{', _, toList_write_obj sep _, by decide⟩

/-- What starts with no quote and no bracket is read as a leaf. -/
theorem readValue_leaf (hc : c ≠ '"') (hbracket : c ≠ '[') (hbrace : c ≠ '{')
    (fuel room position : Nat) :
    readValue (fuel + 1) room ⟨position, c :: cs⟩ = readLeaf ⟨position, c :: cs⟩ := by
  rw [readValue]
  split
  · next h => exact absurd (List.cons.inj h).1 hc
  · next h => exact absurd (List.cons.inj h).1 hbracket
  · next h => exact absurd (List.cons.inj h).1 hbrace
  · rfl

/-- A leaf reads back when the reader of leaves takes its text. -/
theorem readsBack_leaf {w : Json} (hopen : ∃ c cs, (write sep w).toList = c :: cs ∧
      c ≠ '"' ∧ c ≠ '[' ∧ c ≠ '{')
    (hleaf : ∀ position rest, Closes rest →
      ∃ position', readLeaf ⟨position, (write sep w).toList ++ rest⟩ =
        .ok (w, ⟨position', rest⟩)) : ReadsBack sep w := by
  intro fuel room position rest hfuel _ hrest
  obtain ⟨c, cs, hchars, hquote, hbracket, hbrace⟩ := hopen
  -- the text is not empty, so there is fuel for one step, and a leaf needs no more
  obtain ⟨fuel, rfl⟩ : ∃ n, fuel = n + 1 := by
    refine ⟨fuel - 1, ?_⟩
    rw [hchars, List.length_cons] at hfuel
    omega
  obtain ⟨last, hlast⟩ := hleaf position rest hrest
  refine ⟨last, ?_⟩
  rw [hchars, List.cons_append] at hlast ⊢
  rw [readValue_leaf hquote hbracket hbrace, hlast]

/-- A whole number reads back. -/
theorem readsBack_int (n : Int) : ReadsBack sep (.int n) := by
  -- a sign and digits come apart from the characters that open the other values
  have hopen {c : Char} (hc : c = '-' ∨ c.isDigit = true) : c ≠ '"' ∧ c ≠ '[' ∧ c ≠ '{' := by
    refine ⟨?_, ?_, ?_⟩ <;> (rintro rfl; revert hc; decide)
  refine readsBack_leaf ?_ ?_
  · obtain ⟨c, cs, hchars, -⟩ := (Readable.int n).opening sep
    refine ⟨c, cs, hchars, hopen (Text.mem_intText (n := n) ?_)⟩
    exact hchars ▸ List.mem_cons_self
  · intro position rest hrest
    cases n with
    | ofNat n =>
      have hint := readLeaf_int false n hrest position
      have hchars : (write sep (.int (Int.ofNat n))).toList = Nat.toDigits 10 n :=
        Text.intText_ofNat n
      rw [hchars]
      exact hint
    | negSucc n =>
      have hint := readLeaf_int true (n + 1) hrest position
      have hchars : (write sep (.int (Int.negSucc n))).toList = '-' :: Nat.toDigits 10 (n + 1) :=
        Text.intText_negSucc n
      rw [hchars]
      exact hint

/-- A string reads back. -/
theorem readsBack_str (s : String) : ReadsBack sep (.str s) := by
  intro fuel room position rest hfuel _ hrest
  have htext : (write sep (.str s)).toList = '"' :: (s.toList.flatMap escapeChar ++ ['"']) :=
    toList_writeString s
  obtain ⟨last, hlast⟩ := readString_writeString s rest position
  -- its quotes are at least one step of fuel
  obtain ⟨fuel, rfl⟩ : ∃ n, fuel = n + 1 := by
    refine ⟨fuel - 1, ?_⟩
    rw [htext, List.length_cons] at hfuel
    omega
  refine ⟨last, ?_⟩
  rw [toList_writeString, List.cons_append] at hlast
  rw [htext, List.cons_append, readValue]
  simp only [hlast]
  rfl

section steps

variable {fuel room position : Nat} {start behind next last : Cursor}

/-- A value in front of a closing bracket is the last item. -/
theorem readItems_last (hv : readValue fuel room start = .ok (v, behind))
    (hclose : behind.skipSpacing = ⟨position, ']' :: rest⟩) :
    readItems (fuel + 1) room start = .ok ([v], ⟨position + 1, rest⟩) := by
  rw [readItems, hv]
  simp only [bind, Except.bind, hclose]
  rfl

/-- A value in front of a comma is an item, and more of them follow. -/
theorem readItems_next {vs : List Json} (hv : readValue fuel room start = .ok (v, behind))
    (hcomma : behind.skipSpacing = ⟨position, ',' :: rest⟩)
    (hnext : Cursor.skipSpacing ⟨position + 1, rest⟩ = next)
    (hvs : readItems fuel room next = .ok (vs, last)) :
    readItems (fuel + 1) room start = .ok (v :: vs, last) := by
  have hadvance : Cursor.advance ⟨position, ',' :: rest⟩ 1 = ⟨position + 1, rest⟩ := rfl
  rw [readItems, hv]
  simp only [bind, Except.bind, hcomma, hadvance, hnext, hvs]
  rfl

/-- A member up to the end of its value. -/
structure ReadsMember (fuel room : Nat) (start : Cursor) (k : String) (v : Json) (behind : Cursor) :
    Prop where
  quote : ∃ cs, start.rest = '"' :: cs
  name : ∃ named position rest, readString start = .ok (k, named) ∧
    named.skipSpacing = ⟨position, ':' :: rest⟩ ∧
    readValue fuel room (Cursor.skipSpacing ⟨position + 1, rest⟩) = .ok (v, behind)

variable {k : String}

/-- A member in front of a closing brace is the last one. -/
theorem readMembers_last (hm : ReadsMember fuel room start k v behind)
    (hclose : behind.skipSpacing = ⟨position, '}' :: rest⟩) :
    readMembers (fuel + 1) room start = .ok ([(k, v)], ⟨position + 1, rest⟩) := by
  obtain ⟨⟨cs, hquote⟩, ⟨named, p, text, hname, hcolon, hv⟩⟩ := hm
  have hadvance : Cursor.advance ⟨p, ':' :: text⟩ 1 = ⟨p + 1, text⟩ := rfl
  rw [readMembers]
  simp only [hquote, hname, bind, Except.bind, hcolon, hadvance, hv, hclose]
  rfl

/-- A member in front of a comma is followed by more of them. -/
theorem readMembers_next {ms : Assoc Json} (hm : ReadsMember fuel room start k v behind)
    (hcomma : behind.skipSpacing = ⟨position, ',' :: rest⟩)
    (hnext : Cursor.skipSpacing ⟨position + 1, rest⟩ = next)
    (hms : readMembers fuel room next = .ok (ms, last)) :
    readMembers (fuel + 1) room start = .ok ((k, v) :: ms, last) := by
  obtain ⟨⟨cs, hquote⟩, ⟨named, p, text, hname, hcolon, hv⟩⟩ := hm
  have hadvance (c : Char) (p : Nat) (text : List Char) :
    Cursor.advance ⟨p, c :: text⟩ 1 = ⟨p + 1, text⟩ := rfl
  rw [readMembers]
  simp only [hquote, hname, bind, Except.bind, hcolon, hadvance, hv, hcomma, hnext, hms]
  rfl

end steps

/-- The items of an array are read back with its closing bracket. -/
theorem readItems_writeItems (hsep : sep.Known) {v : Json} {vs : List Json}
    (hv : Readable v ∧ ReadsBack sep v) (hvs : ∀ w ∈ vs, Readable w ∧ ReadsBack sep w)
    (rest : List Char) (fuel room position : Nat)
    (hfuel : 2 * ((write sep v).toList ++ (writeItems sep sep.item vs).toList).length + 1 ≤ fuel)
    (hroom : itemLevels (v :: vs) ≤ room) :
    ∃ position', readItems fuel room ⟨position, (write sep v).toList ++
        ((writeItems sep sep.item vs).toList ++ ']' :: rest)⟩ =
      .ok (v :: vs, ⟨position', rest⟩) := by
  rw [List.length_append] at hfuel
  rw [itemLevels] at hroom
  obtain ⟨fuel, rfl⟩ : ∃ n, fuel = n + 1 := ⟨fuel - 1, by omega⟩
  -- by induction on the items behind the first, which take the fuel that is left
  induction vs generalizing v fuel position with
  | nil =>
    obtain ⟨_, hread⟩ := hv.2 fuel room position (']' :: rest) (by omega) (by omega)
      (closes_cons (by simp) rest)
    obtain ⟨_, hclose⟩ := skipSpacing_none (']' :: rest) (by simp [isSpacing]) _
    have hnone : (writeItems sep sep.item []).toList = [] := by rw [writeItems]; rfl
    rw [hnone]
    exact ⟨_, readItems_last hread hclose⟩
  | cons w ws ih =>
    obtain ⟨blanks, hitem, hblanks⟩ := hsep.item
    obtain ⟨hw, hws⟩ := List.forall_mem_cons.1 hvs
    have htext : (writeItems sep sep.item (w :: ws)).toList =
        ',' :: (blanks ++ ((write sep w).toList ++ (writeItems sep sep.item ws).toList)) := by
      rw [writeItems, String.toList_append, String.toList_append, hitem]
      simp
    rw [itemLevels] at hroom
    rw [htext] at hfuel ⊢
    simp only [List.length_append, List.length_cons] at hfuel
    simp only [List.cons_append, List.append_assoc]
    -- the value, then the comma, then the items that are left
    obtain ⟨_, hread⟩ := hv.2 fuel room position _ (by omega) (by omega)
      (closes_cons (.inl rfl) _)
    obtain ⟨_, hcomma⟩ := skipSpacing_none (',' :: _) (by simp [isSpacing]) _
    obtain ⟨c, cs, hchars, hc⟩ := hw.1.opening sep
    obtain ⟨_, hnext⟩ := skipSpacing_blanks ((write sep w).toList ++ _) hblanks
      (by simp [hchars, hc.not_spacing]) _
    obtain ⟨fuel, rfl⟩ : ∃ n, fuel = n + 1 := ⟨fuel - 1, by omega⟩
    obtain ⟨_, hrest⟩ := ih hw hws _ (by omega) fuel (by omega)
    exact ⟨_, readItems_next hread hcomma hnext hrest⟩

/-- The text of a member. -/
def memberText (sep : Separators) (m : String × Json) : List Char :=
  (writeString m.1).toList ++ (sep.colon.toList ++ (write sep m.2).toList)

/-- The levels of members are those of the first one or of the others. -/
theorem memberLevels_cons (m : String × Json) (ms : Assoc Json) :
    memberLevels (Keyed.ofAssoc (m :: ms)) =
      max (levels m.2) (memberLevels (Keyed.ofAssoc ms)) := by
  show memberLevels ((.str m.1, m.2) :: Keyed.ofAssoc ms) = _
  rw [memberLevels]

/-- The members are written one after the other. -/
theorem writeMembers_cons (sep : Separators) (before : String) (m : String × Json)
    (ms : Assoc Json) :
    (writeMembers sep before (Keyed.ofAssoc (m :: ms))).toList =
      before.toList ++ (memberText sep m ++
        (writeMembers sep sep.item (Keyed.ofAssoc ms)).toList) := by
  show (writeMembers sep before ((.str m.1, m.2) :: Keyed.ofAssoc ms)).toList = _
  simp [writeMembers, memberText, memberName]

/-- The text of a member is read as its name and its value. -/
theorem readsMember (hsep : sep.Known) {m : String × Json}
    (hm : Readable m.2 ∧ ReadsBack sep m.2) {rest : List Char} (hrest : Closes rest)
    (fuel room position : Nat) (hfuel : 2 * (memberText sep m).length ≤ fuel)
    (hroom : levels m.2 ≤ room) :
    ∃ position', ReadsMember fuel room ⟨position, memberText sep m ++ rest⟩ m.1 m.2
      ⟨position', rest⟩ := by
  obtain ⟨blanks, hcolon, hblanks⟩ := hsep.colon
  obtain ⟨c, cs, hchars, hc⟩ := hm.1.opening sep
  have htext : memberText sep m ++ rest = (writeString m.1).toList ++
      (':' :: (blanks ++ ((write sep m.2).toList ++ rest))) := by
    simp [memberText, hcolon]
  simp only [memberText, List.length_append] at hfuel
  -- the reader passes the name, the colon, the blanks behind it and the value
  obtain ⟨p₁, hname⟩ := readString_writeString m.1
    (':' :: (blanks ++ ((write sep m.2).toList ++ rest))) position
  obtain ⟨p₂, hmark⟩ := skipSpacing_none
    (':' :: (blanks ++ ((write sep m.2).toList ++ rest))) (by simp [isSpacing]) p₁
  obtain ⟨p₃, hskip⟩ := skipSpacing_blanks ((write sep m.2).toList ++ rest) hblanks
    (by simp [hchars, hc.not_spacing]) (p₂ + 1)
  obtain ⟨p₄, hvalue⟩ := hm.2 fuel room p₃ rest (by omega) hroom hrest
  refine ⟨p₄, ⟨?_, ?_⟩⟩
  · exact ⟨_, by rw [htext, toList_writeString]; rfl⟩
  · exact ⟨_, _, _, by rw [htext]; exact hname, hmark, by rw [hskip]; exact hvalue⟩

/-- The members of an object are read back with its closing brace. -/
theorem readMembers_writeMembers (hsep : sep.Known) {m : String × Json} {ms : Assoc Json}
    (hm : Readable m.2 ∧ ReadsBack sep m.2)
    (hms : ∀ e ∈ ms, Readable e.2 ∧ ReadsBack sep e.2) (rest : List Char)
    (fuel room position : Nat)
    (hfuel : 2 * (memberText sep m ++
      (writeMembers sep sep.item (Keyed.ofAssoc ms)).toList).length + 1 ≤ fuel)
    (hroom : memberLevels (Keyed.ofAssoc (m :: ms)) ≤ room) :
    ∃ position', readMembers fuel room ⟨position, memberText sep m ++
        ((writeMembers sep sep.item (Keyed.ofAssoc ms)).toList ++ '}' :: rest)⟩ =
      .ok (m :: ms, ⟨position', rest⟩) := by
  rw [List.length_append] at hfuel
  rw [memberLevels_cons] at hroom
  obtain ⟨fuel, rfl⟩ : ∃ n, fuel = n + 1 := ⟨fuel - 1, by omega⟩
  -- by induction on the members behind the first, as for the items
  induction ms generalizing m fuel position with
  | nil =>
    have hnone : (writeMembers sep sep.item (Keyed.ofAssoc [])).toList = [] := by
      show (writeMembers sep sep.item []).toList = []
      rw [writeMembers]
      rfl
    rw [hnone]
    obtain ⟨_, hread⟩ := readsMember hsep hm (closes_cons (c := '}') (by simp) rest) fuel
      room position (by omega) (by omega)
    obtain ⟨_, hclose⟩ := skipSpacing_none ('}' :: rest) (by simp [isSpacing]) _
    exact ⟨_, readMembers_last hread hclose⟩
  | cons e es ih =>
    obtain ⟨blanks, hitem, hblanks⟩ := hsep.item
    obtain ⟨he, hes⟩ := List.forall_mem_cons.1 hms
    have htext : (writeMembers sep sep.item (Keyed.ofAssoc (e :: es))).toList =
        ',' :: (blanks ++ (memberText sep e ++
          (writeMembers sep sep.item (Keyed.ofAssoc es)).toList)) := by
      rw [writeMembers_cons, hitem]
      rfl
    rw [memberLevels_cons] at hroom
    rw [htext] at hfuel ⊢
    simp only [List.length_append, List.length_cons] at hfuel
    simp only [List.cons_append, List.append_assoc]
    -- the member, then the comma, then the members that are left
    obtain ⟨_, hread⟩ := readsMember hsep hm (closes_cons (.inl rfl) _) fuel room position
      (by omega) (by omega)
    obtain ⟨_, hcomma⟩ := skipSpacing_none (',' :: _) (by simp [isSpacing]) _
    obtain ⟨_, hnext⟩ := skipSpacing_blanks (memberText sep e ++ _) hblanks
      (by simp [memberText, toList_writeString, isSpacing]) _
    obtain ⟨fuel, rfl⟩ : ∃ n, fuel = n + 1 := ⟨fuel - 1, by omega⟩
    obtain ⟨_, hrest⟩ := ih he hes _ (by omega) fuel (by omega)
    exact ⟨_, readMembers_next hread hcomma hnext hrest⟩

/-- The words are read back as the values that they stand for. -/
theorem readsBack_word {w : Json} (word : String) (c : Char) (cs : List Char)
    (htext : (write sep w).toList = c :: cs) (hword : word.toList = c :: cs)
    (hopen : c ≠ '"' ∧ c ≠ '[' ∧ c ≠ '{')
    (hfind : ∀ rest, namedValues.find? (fun e => e.1.toList.isPrefixOf (c :: (cs ++ rest))) =
      some (word, w)) : ReadsBack sep w := by
  refine readsBack_leaf ⟨c, cs, htext, hopen⟩ fun position rest _ => ?_
  have hlength : word.length = (c :: cs).length := by rw [← hword, String.length_toList]
  refine ⟨position + word.length, ?_⟩
  rw [htext, List.cons_append, readLeaf]
  simp [hfind, Cursor.advance, hlength]

/-- The word `null` reads back. -/
theorem readsBack_null : ReadsBack sep .null :=
  readsBack_word "null" 'n' ['u', 'l', 'l'] (by rw [write]; decide) rfl (by decide)
    fun rest => by simp [namedValues]

/-- The words `true` and `false` read back. -/
theorem readsBack_bool (b : Bool) : ReadsBack sep (.bool b) := by
  cases b with
  | true =>
    exact readsBack_word "true" 't' ['r', 'u', 'e'] (by rw [write]; decide) rfl (by decide)
      fun rest => by simp [namedValues]
  | false =>
    exact readsBack_word "false" 'f' ['a', 'l', 's', 'e'] (by rw [write]; decide) rfl (by decide)
      fun rest => by simp [namedValues]

/-- Brackets around items are read as an array, one level deeper. -/
theorem readValue_arr {fuel room position : Nat} {next last : Cursor} {vs : List Json}
    (hnext : Cursor.skipSpacing ⟨position + 1, cs⟩ = next)
    (hclose : ∀ c ∈ next.rest.head?, c ≠ ']') (hvs : readItems fuel room next = .ok (vs, last)) :
    readValue (fuel + 1) (room + 1) ⟨position, '[' :: cs⟩ = .ok (.arr vs, last) := by
  have hadvance : Cursor.advance ⟨position, '[' :: cs⟩ 1 = ⟨position + 1, cs⟩ := rfl
  simp only [readValue, deeper, bind, Except.bind, hadvance, hnext]
  -- the reader looks for an empty array first
  split
  · next h => simp [h] at hclose
  · rw [hvs]
    rfl

/-- Braces around members are read as an object, one level deeper. -/
theorem readValue_obj {fuel room position : Nat} {next last : Cursor} {ms : Assoc Json}
    (hnext : Cursor.skipSpacing ⟨position + 1, cs⟩ = next)
    (hclose : ∀ c ∈ next.rest.head?, c ≠ '}') (hms : readMembers fuel room next = .ok (ms, last)) :
    readValue (fuel + 1) (room + 1) ⟨position, '{' :: cs⟩ =
      .ok (.obj (Keyed.ofAssoc (Assoc.ofPairs ms)), last) := by
  have hadvance : Cursor.advance ⟨position, '{' :: cs⟩ 1 = ⟨position + 1, cs⟩ := rfl
  simp only [readValue, deeper, bind, Except.bind, hadvance, hnext]
  -- the reader looks for an empty object first
  split
  · next h => simp [h] at hclose
  · rw [hms]
    rfl

/-- Every readable value reads back, by induction on it. -/
theorem Readable.readsBack (hsep : sep.Known) (h : Readable v) : ReadsBack sep v := by
  induction h with
  | null => exact readsBack_null
  | bool b => exact readsBack_bool b
  | int n => exact readsBack_int n
  | str s => exact readsBack_str s
  | @arr vs h ih =>
    intro fuel room position rest hfuel hroom _
    -- the bracket takes one step and one level, the items take what is left
    rw [toList_write_arr, List.length_cons, List.length_append, List.length_singleton] at hfuel
    rw [levels] at hroom
    obtain ⟨fuel, rfl⟩ : ∃ n, fuel = n + 1 := ⟨fuel - 1, by omega⟩
    obtain ⟨room, rfl⟩ : ∃ n, room = n + 1 := ⟨room - 1, by omega⟩
    rw [toList_write_arr, List.cons_append, List.append_assoc]
    cases vs with
    | nil => exact ⟨position + 1 + 1, by rw [writeItems, readValue]; rfl⟩
    | cons w ws =>
      -- the first item starts with no bracket, so the array is not taken for an empty one
      obtain ⟨c, cs, hchars, hc⟩ := (h w List.mem_cons_self).opening sep
      have hitems : (writeItems sep "" (w :: ws)).toList =
          (write sep w).toList ++ (writeItems sep sep.item ws).toList := by
        simp [writeItems]
      rw [hitems] at hfuel ⊢
      rw [List.append_assoc]
      obtain ⟨_, hnext⟩ := skipSpacing_none ((write sep w).toList ++ _)
        (by simp [hchars, hc.not_spacing]) (position + 1)
      obtain ⟨_, hread⟩ := readItems_writeItems hsep
        ⟨h w List.mem_cons_self, ih w List.mem_cons_self⟩
        (fun u hu => ⟨h u (List.mem_cons_of_mem w hu), ih u (List.mem_cons_of_mem w hu)⟩)
        rest fuel room _ (by omega) (by omega)
      exact ⟨_, readValue_arr hnext (by simp [hchars, hc.ne (by decide : ¬ IsOpening ']')]) hread⟩
  | obj ms hnames h ih =>
    intro fuel room position rest hfuel hroom _
    -- the brace takes one step and one level as well
    rw [toList_write_obj, List.length_cons, List.length_append, List.length_singleton] at hfuel
    rw [levels] at hroom
    obtain ⟨fuel, rfl⟩ : ∃ n, fuel = n + 1 := ⟨fuel - 1, by omega⟩
    obtain ⟨room, rfl⟩ : ∃ n, room = n + 1 := ⟨room - 1, by omega⟩
    rw [toList_write_obj, List.cons_append, List.append_assoc]
    cases ms with
    | nil =>
      refine ⟨position + 1 + 1, ?_⟩
      rw [Keyed.ofAssoc, List.map_nil, writeMembers, readValue]
      rfl
    -- a name starts with a quote, so the object is not taken for an empty one
    | cons m ms =>
      rw [writeMembers_cons, String.toList_empty, List.nil_append] at hfuel ⊢
      rw [List.append_assoc]
      obtain ⟨_, hnext⟩ := skipSpacing_none (memberText sep m ++ _)
        (by simp [memberText, toList_writeString, isSpacing]) (position + 1)
      obtain ⟨_, hread⟩ := readMembers_writeMembers hsep
        ⟨h m List.mem_cons_self, ih m List.mem_cons_self⟩
        (fun e he => ⟨h e (List.mem_cons_of_mem m he), ih e (List.mem_cons_of_mem m he)⟩)
        rest fuel room _ (by omega) (by omega)
      have hvalue := readValue_obj hnext (by simp [memberText, toList_writeString]) hread
      -- no name occurs twice, so the reader keeps the members as they are
      rw [Assoc.ofPairs_eq_self hnames] at hvalue
      exact ⟨_, hvalue⟩

/-- A value is read back from its text where there is room for its levels. -/
theorem parseWithin_write (hsep : sep.Known) (h : Readable v) {room : Nat}
    (hroom : levels v ≤ room) : parseWithin room (write sep v) = .ok v := by
  obtain ⟨c, cs, hchars, hc⟩ := h.opening sep
  have hmark : c ≠ '\uFEFF' := hc.ne (by decide)
  obtain ⟨_, hstart⟩ := skipSpacing_none (write sep v).toList
    (by simp [hchars, hc.not_spacing]) 0
  obtain ⟨_, hread⟩ := h.readsBack hsep (2 * (write sep v).toList.length + 1) room _ []
    (by omega) hroom closes_nil
  rw [List.append_nil] at hread
  obtain ⟨_, hend⟩ := skipSpacing_none [] (by simp) _
  -- no byte order mark comes, white space neither in front nor behind, and the value between
  unfold parseWithin
  dsimp only
  split
  · next h => simp [hchars, hmark] at h
  · rw [hstart, hread]
    simp only [bind, Except.bind]
    rw [hend]
    rfl

/-- A value is read back from its text. -/
theorem parse_write_readable (hsep : sep.Known) (h : Readable v) : parse (write sep v) = .ok v :=
  parseWithin_write hsep h (levels_le_length sep v)

/-- In front of whatever follows, different strings have different texts. -/
theorem writeString_append_inj {s t : String} {cs ds : List Char}
    (h : (writeString s).toList ++ cs = (writeString t).toList ++ ds) : s = t ∧ cs = ds := by
  obtain ⟨_, hs⟩ := readString_writeString s cs 0
  obtain ⟨_, ht⟩ := readString_writeString t ds 0
  rw [h, ht] at hs
  obtain ⟨hst, hcursor⟩ := Prod.mk.inj (Except.ok.inj hs)
  exact ⟨hst.symm, (congrArg Cursor.rest hcursor).symm⟩

end ODataService.Json
