import ODataService.Filter.Fault
import ODataService.Text.Blank
import ODataService.Text.Digit

/-!
# Tokens of a filter text

A filter text is a sequence of names, quoted strings, numbers and punctuation with blanks between
them. `Filter.tokenize` cuts it up; the last token marks the end of the text.

Inside a string a quote is written twice or behind a backslash. A number that a name follows
without a blank is no number.
-/

namespace ODataService.Filter

inductive TokenKind where
  | name
  | string
  | number
  | leftParen
  | rightParen
  | comma
  | finish
deriving DecidableEq, Repr

/-- The kind as messages show it. -/
def TokenKind.text : TokenKind → String
  | .name => "name"
  | .string => "string"
  | .number => "number"
  | .leftParen => "("
  | .rightParen => ")"
  | .comma => ","
  | .finish => "end of input"

/-- A token: its kind, the text it was read from, the position of that text, and the value of a
string or number. -/
structure Token where
  kind : TokenKind
  text : String
  position : Nat
  value : Scalar := .null
deriving DecidableEq, Repr

/-- The token as a message shows it: its text, or its kind at the end of the input. -/
def Token.shown (t : Token) : String := if t.text = "" then t.kind.text else t.text

/-- Characters that may start a name. -/
def isNameStart (c : Char) : Bool := c.isAlpha || c == '_' || c == '$'

/-- Characters that may go on a name. -/
def isNamePart (c : Char) : Bool := c.isAlphanum || c == '_' || c == '.' || c == '/' || c == '$'

/-- Reads a string behind its opening quote: its value and the text behind its closing quote.
A text that ends first holds no string. -/
def readQuoted? : List Char → Option (List Char × List Char)
  | [] => none
  | '\\' :: '\'' :: cs => (readQuoted? cs).map fun (v, r) => ('\'' :: v, r)
  | '\'' :: '\'' :: cs => (readQuoted? cs).map fun (v, r) => ('\'' :: v, r)
  | '\'' :: cs => some ([], cs)
  | c :: cs => (readQuoted? cs).map fun (v, r) => (c :: v, r)

/-- The digits behind a point, when the point is followed by one, and the rest. -/
def fractionPart (cs : List Char) : List Char × List Char :=
  match cs with
  | '.' :: cs' =>
    if (cs'.takeWhile Text.isDecimal).isEmpty then ([], cs)
    else (cs'.takeWhile Text.isDecimal, cs'.dropWhile Text.isDecimal)
  | _ => ([], cs)

/-- The digits of a number: the sign, the whole part and the fraction, and the rest of the text. -/
structure NumberParts where
  negative : Bool
  whole : List Char
  fraction : List Char
  rest : List Char

/-- Splits a minus sign off; true means there was one. -/
def splitMinus : List Char → Bool × List Char
  | '-' :: cs => (true, cs)
  | cs => (false, cs)

/-- Whether a name starts at the front of the text. -/
def startsName : List Char → Bool
  | c :: _ => isNameStart c
  | [] => false

/-- Reads a number, which must have a digit before its point and must not run into a name. -/
def readNumber? (cs : List Char) : Option NumberParts :=
  let signed := splitMinus cs
  let whole := signed.2.takeWhile Text.isDecimal
  let tail := fractionPart (signed.2.dropWhile Text.isDecimal)
  if whole.isEmpty || startsName tail.2 then none else some ⟨signed.1, whole, tail.1, tail.2⟩

/-- The value of a number: an integer unless it has a fraction. An integer may have any number of
digits here; the bound of 4300 digits on what is made an integer, beyond which a filter ends in an
incident, is left out. -/
def NumberParts.value (p : NumberParts) : Scalar :=
  if p.fraction.isEmpty then
    let n : Int := Text.decimalValue p.whole
    .int (if p.negative then -n else n)
  else
    .real (Binary64.ofDecimal p.negative (Text.decimalValue (p.whole ++ p.fraction))
      (-p.fraction.length))

/-- A token read from the front of a text, and the rest. -/
structure Lexeme where
  kind : TokenKind
  value : Scalar
  rest : List Char

/-- Reads the token at the front of `c :: cs`, which starts with no blank and stands at
`position`. -/
def readToken (position : Nat) (c : Char) (cs : List Char) : Except Fault Lexeme :=
  if c = '(' then .ok ⟨.leftParen, .null, cs⟩
  else if c = ')' then .ok ⟨.rightParen, .null, cs⟩
  else if c = ',' then .ok ⟨.comma, .null, cs⟩
  else if c = '\'' then
    match readQuoted? cs with
    | some (v, rest) => .ok ⟨.string, .str (String.ofList v), rest⟩
    | none => .error (.unclosedQuote position)
  else
    match readNumber? (c :: cs) with
    | some p => .ok ⟨.number, p.value, p.rest⟩
    | none =>
      if isNameStart c then .ok ⟨.name, .null, cs.dropWhile isNamePart⟩
      else .error (.unexpectedCharacter c position)

theorem length_dropWhile_le (p : Char → Bool) (cs : List Char) :
    (cs.dropWhile p).length ≤ cs.length :=
  (List.dropWhile_suffix p).length_le

theorem readQuoted?_rest_lt {cs v r : List Char} (h : readQuoted? cs = some (v, r)) :
    r.length < cs.length := by
  fun_induction readQuoted? cs generalizing v with
  | case1 => simp at h
  | case2 cs ih =>
    obtain ⟨⟨v', r'⟩, hv, he⟩ := Option.map_eq_some_iff.1 h
    obtain ⟨-, rfl⟩ := Prod.mk.inj he
    have := ih hv
    simp only [List.length_cons]; omega
  | case3 cs ih =>
    obtain ⟨⟨v', r'⟩, hv, he⟩ := Option.map_eq_some_iff.1 h
    obtain ⟨-, rfl⟩ := Prod.mk.inj he
    have := ih hv
    simp only [List.length_cons]; omega
  | case4 cs _ =>
    obtain ⟨-, rfl⟩ := Prod.mk.inj (Option.some.inj h)
    simp
  | case5 c cs _ _ _ ih =>
    obtain ⟨⟨v', r'⟩, hv, he⟩ := Option.map_eq_some_iff.1 h
    obtain ⟨-, rfl⟩ := Prod.mk.inj he
    have := ih hv
    simp only [List.length_cons]; omega

theorem fractionPart_rest_le (cs : List Char) : (fractionPart cs).2.length ≤ cs.length := by
  unfold fractionPart
  split
  · split
    · simp
    · have := length_dropWhile_le Text.isDecimal (by assumption)
      simp only [List.length_cons]; omega
  · simp

theorem splitMinus_rest_le (cs : List Char) : (splitMinus cs).2.length ≤ cs.length := by
  unfold splitMinus
  split <;> simp

theorem readNumber?_rest_lt {cs : List Char} {p : NumberParts} (h : readNumber? cs = some p) :
    p.rest.length < cs.length := by
  simp only [readNumber?] at h
  split at h
  · exact absurd h (by simp)
  next hw =>
    obtain rfl := Option.some.inj h
    have hsign := splitMinus_rest_le cs
    have htail := fractionPart_rest_le ((splitMinus cs).2.dropWhile Text.isDecimal)
    have hsplit := congrArg List.length
      (List.takeWhile_append_dropWhile (p := Text.isDecimal) (l := (splitMinus cs).2))
    have hpos : 0 < ((splitMinus cs).2.takeWhile Text.isDecimal).length := by
      rw [List.length_pos_iff]; intro h0; simp [h0] at hw
    rw [List.length_append] at hsplit
    simp only
    omega

/-- Reading a token uses up at least one character. -/
theorem readToken_rest_le {position : Nat} {c : Char} {cs : List Char} {l : Lexeme}
    (h : readToken position c cs = .ok l) : l.rest.length ≤ cs.length := by
  simp only [readToken] at h
  split at h
  · obtain rfl := Except.ok.inj h; simp
  split at h
  · obtain rfl := Except.ok.inj h; simp
  split at h
  · obtain rfl := Except.ok.inj h; simp
  split at h
  · split at h
    next hq => obtain rfl := Except.ok.inj h; exact Nat.le_of_lt (readQuoted?_rest_lt hq)
    · exact absurd h (by simp)
  split at h
  next hn =>
    obtain rfl := Except.ok.inj h
    have := readNumber?_rest_lt hn
    simp only [List.length_cons] at this ⊢; omega
  · split at h
    · obtain rfl := Except.ok.inj h; exact length_dropWhile_le _ _
    · exact absurd h (by simp)

/-- The tokens of a text whose first character stands at `position`. -/
def tokensFrom (position : Nat) (cs : List Char) : Except Fault (List Token) :=
  match cs with
  | [] => .ok [⟨.finish, "", position, .null⟩]
  | c :: cs =>
    if Text.isBlank c then tokensFrom (position + 1) cs
    else
      match h : readToken position c cs with
      | .error fault => .error fault
      | .ok l =>
        let length := cs.length + 1 - l.rest.length
        have : l.rest.length ≤ cs.length := readToken_rest_le h
        match tokensFrom (position + length) l.rest with
        | .error fault => .error fault
        | .ok tokens =>
          .ok (⟨l.kind, String.ofList ((c :: cs).take length), position, l.value⟩ :: tokens)
termination_by cs.length

/-- The tokens of a text, the end of the text last. -/
def tokenize (text : String) : Except Fault (List Token) := tokensFrom 0 text.toList

end ODataService.Filter
