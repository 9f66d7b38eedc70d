import ODataService.Proofs.Filter.Grammar
import ODataService.Proofs.Filter.Tokens
import ODataService.Proofs.Filter.Writing
import ODataService.Proofs.Text.Character
import ODataService.Proofs.Text.Splitting

/-!
# Tokens of written pieces

`Lexes position cs ts` says that the characters `cs` at `position` are the tokens `ts`, whatever
stands behind them, as long as that is a blank or punctuation and so goes on with no name, number or
string (`Ends`). Names, strings, numbers and punctuation lex, and so do texts put together from
texts that lex.
-/

namespace ODataService.Filter

open Text (takeWhile_append_rest dropWhile_append_rest)

/-- The characters that go on with no name, number or string. -/
def isBreak (c : Char) : Bool := c == ' ' || c == '(' || c == ')' || c == ','

/-- A text that goes on with nothing in front of it: it is empty or starts with a break. -/
def Ends (cs : List Char) : Prop := ∀ c ∈ cs.head?, isBreak c = true

theorem ends_nil : Ends [] := by simp [Ends]

theorem ends_cons {c : Char} (cs : List Char) (h : isBreak c = true) : Ends (c :: cs) := by
  simpa [Ends] using h

/-- Two texts that end what stands in front of them do so together. -/
theorem Ends.append {cs ds : List Char} (hc : Ends cs) (hd : Ends ds) : Ends (cs ++ ds) := by
  cases cs with
  | nil => exact hd
  | cons c cs => exact hc

/-- No break goes on with anything. -/
theorem isBreak_iff {c : Char} :
    isBreak c = true ↔ c = ' ' ∨ c = '(' ∨ c = ')' ∨ c = ',' := by
  simp [isBreak, or_assoc]

/-- What ends a text does not start with a character that is no break. -/
theorem Ends.not_head {rest : List Char} (h : Ends rest) {p : Char → Bool}
    (hp : ∀ c, isBreak c = true → p c = false) : ∀ c ∈ rest.head?, p c = false :=
  fun c hc => hp c (h c hc)

/-! ## Lexing -/

/-- The characters at `position` are the given tokens, whatever ends them. -/
def Lexes (position : Nat) (cs : List Char) (ts : List Token) : Prop :=
  ∀ rest, Ends rest →
    tokensFrom position (cs ++ rest) =
      (tokensFrom (position + cs.length) rest).map (ts ++ ·)

theorem map_id_append (x : Except Fault (List Token)) : x.map ([] ++ ·) = x := by
  cases x <;> rfl

/-- Tokens in front of tokens in front, at once. -/
theorem map_append_map (ts us : List Token) (x : Except Fault (List Token)) :
    (x.map (us ++ ·)).map (ts ++ ·) = x.map ((ts ++ us) ++ ·) := by
  cases x with
  | error _ => rfl
  | ok vs => simp [Except.map]

/-- The empty text is no token. -/
theorem Lexes.nil (position : Nat) : Lexes position [] [] := by
  intro rest _
  exact (map_id_append _).symm

/-- A text that ends the one in front of it is lexed behind it. -/
theorem Lexes.append {position : Nat} {cs ds : List Char} {ts us : List Token}
    (hc : Lexes position cs ts) (hd : Lexes (position + cs.length) ds us) (he : Ends ds) :
    Lexes position (cs ++ ds) (ts ++ us) := by
  intro rest hr
  rw [List.append_assoc, hc _ (he.append hr), hd _ hr, map_append_map, List.length_append,
    Nat.add_assoc]

/-- A blank in front of a text moves its tokens by one place. -/
theorem Lexes.blank {position : Nat} {cs : List Char} {ts : List Token}
    (h : Lexes (position + 1) cs ts) : Lexes position (' ' :: cs) ts := by
  intro rest hr
  rw [List.cons_append, tokensFrom_blank (by decide), h rest hr, List.length_cons]
  -- only the position behind the text is counted in two ways
  congr 2
  omega

/-- A character that is a token on its own whatever follows it. -/
theorem Lexes.punctuation {position : Nat} {c : Char} {kind : TokenKind} {cs : List Char}
    {ts : List Token} (hb : Text.isBlank c = false)
    (hc : ∀ ds, readToken position c ds = .ok ⟨kind, .null, ds⟩)
    (h : Lexes (position + 1) cs ts) :
    Lexes position (c :: cs) (⟨kind, String.ofList [c], position, .null⟩ :: ts) := by
  intro rest hr
  -- the token is as long as what is missing of the text behind it
  have hlen : (cs ++ rest).length + 1 - (cs ++ rest).length = 1 := by omega
  rw [List.cons_append, tokensFrom_token hb (hc _), hlen, h rest hr, List.length_cons]
  rw [show position + 1 + cs.length = position + (cs.length + 1) by omega]
  cases tokensFrom (position + (cs.length + 1)) rest with
  | error _ => rfl
  | ok us => simp [Except.map, Lexeme.token]

/-- An opening parenthesis is a token of its own. -/
theorem Lexes.leftParen {position : Nat} {cs : List Char} {ts : List Token}
    (h : Lexes (position + 1) cs ts) :
    Lexes position ('(' :: cs) (⟨.leftParen, "(", position, .null⟩ :: ts) :=
  h.punctuation (by decide) fun _ => rfl

/-- A closing parenthesis is a token of its own. -/
theorem Lexes.rightParen {position : Nat} {cs : List Char} {ts : List Token}
    (h : Lexes (position + 1) cs ts) :
    Lexes position (')' :: cs) (⟨.rightParen, ")", position, .null⟩ :: ts) :=
  h.punctuation (by decide) fun _ => rfl

/-- A comma is a token of its own. -/
theorem Lexes.comma {position : Nat} {cs : List Char} {ts : List Token}
    (h : Lexes (position + 1) cs ts) :
    Lexes position (',' :: cs) (⟨.comma, ",", position, .null⟩ :: ts) :=
  h.punctuation (by decide) fun _ => rfl

/-- A text that is read as one token in front of whatever ends it. -/
theorem Lexes.token {position : Nat} {c : Char} {cs : List Char} {kind : TokenKind}
    {value : Scalar} (hb : Text.isBlank c = false)
    (hr : ∀ rest, Ends rest → readToken position c (cs ++ rest) = .ok ⟨kind, value, rest⟩) :
    Lexes position (c :: cs) [⟨kind, String.ofList (c :: cs), position, value⟩] := by
  intro rest hrest
  have hlen : (cs ++ rest).length + 1 - rest.length = cs.length + 1 := by
    rw [List.length_append]
    omega
  rw [List.cons_append, tokensFrom_token hb (hr rest hrest), hlen, List.length_cons]
  cases tokensFrom (position + (cs.length + 1)) rest with
  | error _ => rfl
  | ok us =>
    -- the text of the token is what was read, and nothing of the rest
    have htake : (c :: (cs ++ rest)).take (cs.length + 1) = c :: cs := by simp
    have hcount : (c :: (cs ++ rest)).length - rest.length = cs.length + 1 := by
      rw [List.length_cons]
      exact hlen
    simp only [Except.map, Lexeme.token, hcount, htake, List.cons_append, List.nil_append]

/-! ## Names -/

/-- The characters of a name are ASCII, and none comes before the dollar sign. -/
theorem isNamePart_toNat {c : Char} (h : isNamePart c = true) :
    0x24 ≤ c.toNat ∧ c.toNat < 0x80 := by
  simp only [isNamePart, Char.isAlphanum, Bool.or_eq_true, beq_iff_eq, Text.isDigit_iff_toNat,
    Text.isAlpha_iff_toNat] at h
  rcases h with ((((h | h) | rfl) | rfl) | rfl) | rfl
  · omega
  · omega
  all_goals decide

/-- What starts a name may also stand inside of one. -/
theorem isNamePart_of_isNameStart {c : Char} (h : isNameStart c = true) : isNamePart c = true := by
  simp only [isNameStart, isNamePart, Char.isAlphanum, Bool.or_eq_true] at h ⊢
  rcases h with (h | h) | h <;> simp [h]

/-- No blank stands in a name. -/
theorem isBlank_of_isNamePart {c : Char} (h : isNamePart c = true) : Text.isBlank c = false := by
  -- every blank of the ASCII range lies below the characters of names
  obtain ⟨hlow, hhigh⟩ := isNamePart_toNat h
  exact Text.isBlank_eq_false (by omega) hhigh

/-- No digit starts a name. -/
theorem isDigit_of_isNameStart {c : Char} (h : isNameStart c = true) : c.isDigit = false := by
  rw [Bool.eq_false_iff]
  intro hd
  rw [Text.isDigit_iff_toNat] at hd
  simp only [isNameStart, Bool.or_eq_true, beq_iff_eq, Text.isAlpha_iff_toNat] at h
  rcases h with (h | rfl) | rfl
  · omega
  all_goals revert hd; decide

theorem isNamePart_of_isBreak (c : Char) (h : isBreak c = true) : isNamePart c = false := by
  rcases isBreak_iff.mp h with rfl | rfl | rfl | rfl <;> decide

/-- A property name is a character that starts one, and characters that may follow. -/
theorem isPropertyName_spec {field : String} (h : isPropertyName field = true) :
    ∃ c cs, field.toList = c :: cs ∧ isNameStart c = true ∧ ∀ d ∈ cs, isNamePart d = true := by
  unfold isPropertyName at h
  split at h
  · next c cs hcs =>
    rw [Bool.and_eq_true, List.all_eq_true] at h
    exact ⟨c, cs, hcs, h.1, h.2⟩
  · simp at h

/-- All characters of a property name are characters of names, the first one too. -/
theorem forall_isNamePart {field : String} (h : isPropertyName field = true) :
    ∀ c ∈ field.toList, isNamePart c = true := by
  obtain ⟨c, cs, heq, hc, hcs⟩ := isPropertyName_spec h
  rw [heq]
  intro d hd
  rcases List.mem_cons.mp hd with rfl | hd
  · exact isNamePart_of_isNameStart hc
  · exact hcs d hd

/-- Without a minus in front there is no sign. -/
theorem splitMinus_of_ne {c : Char} (h : c ≠ '-') (cs : List Char) :
    splitMinus (c :: cs) = (false, c :: cs) := by
  unfold splitMinus
  split
  · next heq => exact absurd (List.cons.inj heq).1 h
  · rfl

/-- What starts a name starts no number. -/
theorem readNumber?_of_isNameStart {c : Char} (h : isNameStart c = true) (cs : List Char) :
    readNumber? (c :: cs) = none := by
  -- a minus starts no name, so there is no sign to split off
  have hsign : splitMinus (c :: cs) = (false, c :: cs) := by
    refine splitMinus_of_ne ?_ cs
    rintro rfl
    exact absurd h (by decide)
  have hc : Text.isDecimal c = false :=
    Text.isDecimal_eq_false (isNamePart_toNat (isNamePart_of_isNameStart h)).2
      (isDigit_of_isNameStart h)
  simp [readNumber?, hsign, hc]

/-- A property name is one token. -/
theorem Lexes.name {field : String} (h : isPropertyName field = true) (position : Nat) :
    Lexes position field.toList [⟨.name, field, position, .null⟩] := by
  obtain ⟨c, cs, heq, hc, hcs⟩ := isPropertyName_spec h
  -- punctuation, quotes and signs come first in the reader, and no name starts with them
  have hne : ∀ d, isNameStart d = false → c ≠ d := by
    rintro d hd rfl
    exact absurd hc (by simp [hd])
  have hlex : Lexes position (c :: cs) [⟨.name, String.ofList (c :: cs), position, .null⟩] := by
    refine .token (isBlank_of_isNamePart (isNamePart_of_isNameStart hc)) fun rest hr => ?_
    rw [readToken, if_neg (hne _ (by decide)), if_neg (hne _ (by decide)),
      if_neg (hne _ (by decide)), if_neg (hne _ (by decide)), readNumber?_of_isNameStart hc]
    simp only [hc, if_true, dropWhile_append_rest hcs (hr.not_head isNamePart_of_isBreak)]
  rw [← heq, String.ofList_toList] at hlex
  exact hlex

/-! ## Strings -/

/-- Only a quote is escaped. -/
theorem escaped_cons_of_ne {c : Char} (h : c ≠ '\'') (cs : List Char) :
    escaped (c :: cs) = c :: escaped cs := by
  rw [escaped]
  exact h

/-- No escaped text starts with a quote. -/
theorem escaped_head_ne {cs : List Char} (h : cs ≠ []) (rest : List Char) :
    (escaped cs ++ rest).head? ≠ some '\'' := by
  obtain ⟨c, cs, rfl⟩ := List.exists_cons_of_ne_nil h
  by_cases hc : c = '\''
  · subst hc
    simp [escaped]
  · simpa [escaped_cons_of_ne hc] using hc

/-- A character that is no quote, and no backslash in front of one, is part of the string. -/
theorem readQuoted?_cons {c : Char} {cs : List Char} (h : c ≠ '\'')
    (hesc : c = '\\' → cs.head? ≠ some '\'') :
    readQuoted? (c :: cs) = (readQuoted? cs).map fun (v, r) => (c :: v, r) := by
  rw [readQuoted?.eq_def]
  -- only the last of the reader's cases is left
  split
  · next heq => simp at heq
  · next heq =>
    obtain ⟨rfl, rfl⟩ := List.cons.inj heq
    exact absurd rfl (hesc rfl)
  · next heq => exact absurd (List.cons.inj heq).1 h
  · next heq => exact absurd (List.cons.inj heq).1 h
  · next heq =>
    obtain ⟨rfl, rfl⟩ := List.cons.inj heq
    rfl

/-- A backslash at the end of a text is one at the end of what follows its first character. -/
theorem getLast?_tail_ne {c : Char} {cs : List Char} (h : (c :: cs).getLast? ≠ some '\\') :
    cs.getLast? ≠ some '\\' := by
  cases cs with
  | nil => simp
  | cons d cs => rwa [List.getLast?_cons_cons] at h

/-- An escaped text is read up to the quote behind it. -/
theorem readQuoted?_escaped {cs rest : List Char} (h : cs.getLast? ≠ some '\\')
    (hr : rest.head? ≠ some '\'') :
    readQuoted? (escaped cs ++ '\'' :: rest) = some (cs, rest) := by
  induction cs with
  | nil =>
    cases rest with
    | nil => rfl
    | cons d rest =>
      rw [escaped, List.nil_append, readQuoted?]
      -- two quotes would be one quote of the string
      intro ds heq
      exact hr (by rw [heq]; rfl)
  | cons c cs ih =>
    have ih := ih (getLast?_tail_ne h)
    by_cases hc : c = '\''
    · -- a quote of the text has a backslash in front of it
      subst hc
      rw [escaped, List.cons_append, List.cons_append, readQuoted?, ih]
      rfl
    · -- a backslash of the text is not the last character, and no quote stands behind it
      have hesc : c = '\\' → (escaped cs ++ '\'' :: rest).head? ≠ some '\'' := by
        rintro rfl
        refine escaped_head_ne ?_ _
        rintro rfl
        exact h rfl
      rw [escaped_cons_of_ne hc, List.cons_append, readQuoted?_cons hc hesc, ih]
      rfl

/-- A string in quotes is one token that holds it. -/
theorem Lexes.quoted {s : String} (h : isQuotable s = true) (position : Nat) :
    Lexes position (quotedText s)
      [⟨.string, String.ofList (quotedText s), position, .str s⟩] := by
  refine .token (by decide) fun rest hr => ?_
  -- what ends a string is a break, and no quote is one
  have hhead : rest.head? ≠ some '\'' := by
    intro hq
    exact absurd (hr _ hq) (by decide)
  rw [List.append_assoc, List.singleton_append]
  simp [readToken, readQuoted?_escaped (by simpa [isQuotable] using h) hhead]

/-! ## Numbers -/

theorem isDecimal_of_isBreak (c : Char) (h : isBreak c = true) : Text.isDecimal c = false := by
  rcases isBreak_iff.mp h with rfl | rfl | rfl | rfl <;> decide

/-- What ends a text starts no name. -/
theorem startsName_of_ends {rest : List Char} (h : Ends rest) : startsName rest = false := by
  cases rest with
  | nil => rfl
  | cons c rest =>
    rw [startsName, Bool.eq_false_iff]
    intro hc
    -- a character that starts a name may stand inside of one, and a break may not
    have hpart := isNamePart_of_isBreak c (h c rfl)
    rw [isNamePart_of_isNameStart hc] at hpart
    exact absurd hpart (by simp)

/-- What ends a text is no fraction. -/
theorem fractionPart_of_ends {rest : List Char} (h : Ends rest) : fractionPart rest = ([], rest) := by
  unfold fractionPart
  split
  · exact absurd (h '.' rfl) (by decide)
  · rfl

/-- A number is a sign or none, digits, and perhaps a point and digits; it ends where no digit and no
name goes on. -/
theorem readNumber?_eq_some_iff {cs : List Char} {p : NumberParts} :
    readNumber? cs = some p ↔ ∃ tail, splitMinus cs = (p.negative, p.whole ++ tail) ∧
      p.whole ≠ [] ∧ (∀ c ∈ p.whole, Text.isDecimal c = true) ∧
      (∀ c ∈ tail.head?, Text.isDecimal c = false) ∧
      fractionPart tail = (p.fraction, p.rest) ∧ startsName p.rest = false := by
  simp only [readNumber?]
  -- the digits are the longest run of them, which the first character behind it says
  constructor
  · intro h
    split at h
    · simp at h
    · next hwhole =>
      obtain rfl := Option.some.inj h
      rw [Bool.not_eq_true, Bool.or_eq_false_iff] at hwhole
      refine ⟨(splitMinus cs).2.dropWhile Text.isDecimal, ?_, by simpa using hwhole.1,
        List.all_eq_true.1 List.all_takeWhile, ?_, rfl, hwhole.2⟩
      · rw [List.takeWhile_append_dropWhile]
      · intro c hc
        have hstop := List.head?_dropWhile_not Text.isDecimal (splitMinus cs).2
        rwa [Option.mem_def.1 hc] at hstop
  · rintro ⟨tail, hsign, hne, hwhole, htail, hfraction, hname⟩
    simp [hsign, takeWhile_append_rest hwhole htail, dropWhile_append_rest hwhole htail, hfraction,
      hname, hne]

/-- The digits of a number behind a sign or none are read as that number. -/
theorem readNumber?_digits {cs digits rest : List Char} {negative : Bool}
    (hs : splitMinus cs = (negative, digits ++ rest)) (hne : digits ≠ [])
    (hd : ∀ c ∈ digits, c.isDigit = true) (hr : Ends rest) :
    readNumber? cs = some ⟨negative, digits, [], rest⟩ :=
  -- the digits are all decimal, and the break behind them is not
  readNumber?_eq_some_iff.2 ⟨rest, hs, hne, fun c hc => Text.isDecimal_of_isDigit (hd c hc),
    hr.not_head isDecimal_of_isBreak, fractionPart_of_ends hr, startsName_of_ends hr⟩

/-- An integer is one token: a sign or none, and digits. -/
theorem Lexes.number {c : Char} {cs digits : List Char} {negative : Bool}
    (hc : c = '-' ∨ c.isDigit = true)
    (hs : ∀ rest, splitMinus (c :: (cs ++ rest)) = (negative, digits ++ rest))
    (hne : digits ≠ []) (hd : ∀ c ∈ digits, c.isDigit = true) (position : Nat) :
    Lexes position (c :: cs) [⟨.number, String.ofList (c :: cs), position,
      .int (if negative then -(Text.decimalValue digits : Int) else Text.decimalValue digits)⟩] := by
  have hb : Text.isBlank c = false := by
    rcases hc with rfl | hc
    · decide
    · exact Text.isBlank_of_isDigit hc
  -- neither a minus nor a digit is read as something else
  have hpunct : ∀ d : Char, d ≠ '-' → d.isDigit = false → c ≠ d := by
    rintro d hd hdigit rfl
    rcases hc with hc | hc
    · exact hd hc
    · simp [hdigit] at hc
  refine .token hb fun rest hr => ?_
  rw [readToken, if_neg (hpunct _ (by decide) (by decide)),
    if_neg (hpunct _ (by decide) (by decide)), if_neg (hpunct _ (by decide) (by decide)),
    if_neg (hpunct _ (by decide) (by decide)), readNumber?_digits (hs rest) hne hd hr]
  rfl

/-- The decimal text of an integer is one token that holds it. -/
theorem Lexes.int (n : Int) (position : Nat) :
    Lexes position (toString n).toList [⟨.number, toString n, position, .int n⟩] := by
  have hdigits : ∀ m : Nat, ∀ c ∈ Nat.toDigits 10 m, c.isDigit = true :=
    fun m c hc => Text.isDigit_of_mem_toDigits hc
  cases n with
  | ofNat m =>
    -- no sign, so the first digit starts the token
    obtain ⟨c, cs, heq⟩ := List.exists_cons_of_ne_nil (Nat.toDigits_ne_nil (n := m) (b := 10))
    have hc : c.isDigit = true := hdigits m c (by simp [heq])
    have hminus : c ≠ '-' := by
      rintro rfl
      exact absurd hc (by decide)
    have hlex := Lexes.number (.inr hc) (fun rest => splitMinus_of_ne hminus (cs ++ rest))
      (List.cons_ne_nil c cs) (heq ▸ hdigits m) position
    rw [← heq, Text.decimalValue_toDigits] at hlex
    rw [← String.ofList_toList (s := toString (Int.ofNat m)), String.toList_ofList, Text.intText_ofNat]
    exact hlex
  | negSucc m =>
    -- the sign is split off, and the digits are those of the magnitude
    have hlex := Lexes.number (.inl rfl) (fun rest => rfl) Nat.toDigits_ne_nil (hdigits (m + 1))
      position
    rw [Text.decimalValue_toDigits] at hlex
    rw [← String.ofList_toList (s := toString (Int.negSucc m)), String.toList_ofList,
      Text.intText_negSucc]
    exact hlex

/-! ## Words and literals

The words of a filter text are written in lower case, so that they are the names they stand for. -/

theorem lower_true : Text.lower "true" = "true" := by decide

theorem lower_false : Text.lower "false" = "false" := by decide

theorem lower_null : Text.lower "null" = "null" := by decide

theorem lower_comparator (c : Comparator) : Text.lower c.name = c.name := by cases c <;> decide

theorem lower_textFunction (fn : TextFunction) : Text.lower fn.name = fn.name := by
  cases fn <;> decide

/-- The text of a literal is one token that is the literal. -/
theorem lexes_literal {v : Scalar} (h : isWritableLiteral v = true) (position : Nat) :
    ∃ t, Lexes position (literalText v) [t] ∧ Literal t v := by
  cases v with
  | null => exact ⟨_, Lexes.name (by decide) position, .null ⟨rfl, lower_null⟩⟩
  | bool b =>
    cases b with
    | false => exact ⟨_, Lexes.name (by decide) position, .no ⟨rfl, lower_false⟩⟩
    | true => exact ⟨_, Lexes.name (by decide) position, .yes ⟨rfl, lower_true⟩⟩
  | int n => exact ⟨_, Lexes.int n position, .number rfl⟩
  | real x => simp [isWritableLiteral] at h
  | str s => exact ⟨_, Lexes.quoted h position, .quoted rfl⟩

end ODataService.Filter
