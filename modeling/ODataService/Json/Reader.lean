import ODataService.Json.Value

/-!
# Reading JSON texts

`Json.parse` reads a whole text as one value or says what is wrong and where. Beyond the standard
it takes `NaN`, `Infinity` and `-Infinity`; of members with one name the last value wins, in the
place of the first; a number with a point or exponent is a binary64 value, any other an integer of
any size. A bound on the number of digits of an integer is left out here.

Arrays and objects are read one inside of the other, and the stack may have room for so many levels
only (`Json.parseWithin`).

Positions count characters from the start of the text; the wording of an error gives line and
column as well.
-/

namespace ODataService

namespace Json

/-- What is wrong with a text that is no JSON. -/
inductive Problem where
  | byteOrderMark
  | value
  | name
  | colon
  | comma
  | extraData
  | unterminatedString
  | controlCharacter
  | escape
  | unicodeEscape
deriving DecidableEq, Repr

def Problem.wording : Problem → String
  | .byteOrderMark => "Unexpected UTF-8 BOM (decode using utf-8-sig)"
  | .value => "Expecting value"
  | .name => "Expecting property name enclosed in double quotes"
  | .colon => "Expecting ':' delimiter"
  | .comma => "Expecting ',' delimiter"
  | .extraData => "Extra data"
  | .unterminatedString => "Unterminated string starting at"
  | .controlCharacter => "Invalid control character at"
  | .escape => "Invalid \\escape"
  | .unicodeEscape => "Invalid \\uXXXX escape"

/-- A problem and the position it was found at. -/
structure SyntaxError where
  problem : Problem
  position : Nat
deriving DecidableEq, Repr

/-- The number of the line that a position is on, and its column in it, both from one. -/
def lineAndColumn (position : Nat) (text : List Char) : Nat × Nat :=
  let before := text.take position
  (before.count '\n' + 1, (before.reverse.takeWhile (· != '\n')).length + 1)

/-- The wording of an error in `text`. -/
def SyntaxError.message (e : SyntaxError) (text : String) : String :=
  let (line, column) := lineAndColumn e.position text.toList
  s!"{e.problem.wording}: line {line} column {column} (char {e.position})"

/-- What holds other values. -/
inductive Container where
  | array
  | object
deriving DecidableEq, Repr

def Container.name : Container → String
  | .array => "array"
  | .object => "object"

/-- Why a text is not read. -/
inductive Fault where
  /-- The text is no JSON. -/
  | malformed (e : SyntaxError)
  /-- There is no room on the stack for an array or object inside of the others. -/
  | nested (c : Container)
deriving DecidableEq, Repr

/-- The wording of a fault of `text`. -/
def Fault.message (text : String) : Fault → String
  | .malformed e => e.message text
  | .nested c =>
    s!"maximum recursion depth exceeded while decoding a JSON {c.name} from a unicode string"

/-- The text still to be read and the position of its first character. -/
structure Cursor where
  position : Nat
  rest : List Char

/-- Moves over the given number of characters. -/
def Cursor.advance (c : Cursor) (n : Nat) : Cursor := ⟨c.position + n, c.rest.drop n⟩

/-- The blanks that may stand between the parts of a JSON text. -/
def isSpacing (c : Char) : Bool := c == ' ' || c == '\t' || c == '\n' || c == '\r'

/-- Moves over blanks. -/
def Cursor.skipSpacing (c : Cursor) : Cursor :=
  ⟨c.position + (c.rest.takeWhile isSpacing).length, c.rest.dropWhile isSpacing⟩

/-- Gives up at a position. -/
def failAt {α : Type} (p : Problem) (position : Nat) : Except Fault α :=
  .error (.malformed ⟨p, position⟩)

/-- Gives up at the cursor. -/
def Cursor.fail {α : Type} (c : Cursor) (p : Problem) : Except Fault α := failAt p c.position

/-- The levels that are left inside of an array or object. -/
def deeper (c : Container) : (levels : Nat) → Except Fault Nat
  | 0 => .error (.nested c)
  | levels + 1 => .ok levels

/-- The value of a hexadecimal digit. -/
def hexValue? (c : Char) : Option Nat :=
  if c.isDigit then some (c.toNat - 0x30)
  else if 'a' ≤ c ∧ c ≤ 'f' then some (c.toNat - 0x61 + 10)
  else if 'A' ≤ c ∧ c ≤ 'F' then some (c.toNat - 0x41 + 10)
  else none

/-- The value of four hexadecimal digits. -/
def hex4? (a b c d : Char) : Option Nat := do
  let a ← hexValue? a
  let b ← hexValue? b
  let c ← hexValue? c
  let d ← hexValue? d
  return ((a * 16 + b) * 16 + c) * 16 + d

/-- The character that a backslash and a letter stand for. -/
def simpleEscape? (c : Char) : Option Nat :=
  match c with
  | '"' => some 0x22
  | '\\' => some 0x5C
  | '/' => some 0x2F
  | 'b' => some 0x08
  | 'f' => some 0x0C
  | 'n' => some 0x0A
  | 'r' => some 0x0D
  | 't' => some 0x09
  | _ => none

/-- Reads the rest of a string whose opening quote stood at `start`, as UTF-16 units where it was
written with escapes. Four digits of an escape must be followed by a further character. -/
def stringUnits (start position : Nat) : List Char → Except Fault (List Nat × Cursor)
  | [] => failAt .unterminatedString start
  | '"' :: cs => .ok ([], ⟨position + 1, cs⟩)
  | ['\\'] => failAt .unterminatedString start
  | '\\' :: 'u' :: a :: b :: c :: d :: e :: cs =>
    match hex4? a b c d with
    | some n => do
      let (ns, cur) ← stringUnits start (position + 6) (e :: cs)
      return (n :: ns, cur)
    | none => failAt .unicodeEscape (position + 1)
  | '\\' :: c :: cs =>
    if c = 'u' then failAt .unicodeEscape (position + 1)
    else
      match simpleEscape? c with
      | some n => do
        let (ns, cur) ← stringUnits start (position + 2) cs
        return (n :: ns, cur)
      | none => failAt .escape position
  | c :: cs =>
    if c.toNat < 0x20 then failAt .controlCharacter position
    else do
      let (ns, cur) ← stringUnits start (position + 1) cs
      return (c.toNat :: ns, cur)

/-- Joins pairs of surrogate units. A unit without its partner becomes the replacement character:
the service that is described keeps such units, which no text here can hold, so texts that differ in
them alone are the same here. -/
def joinUnits : List Nat → List Char
  | [] => []
  | [n] => [if 0xD800 ≤ n && n < 0xE000 then Char.ofNat 0xFFFD else Char.ofNat n]
  | h :: l :: ns =>
    if 0xD800 ≤ h && h < 0xDC00 && 0xDC00 ≤ l && l < 0xE000 then
      Char.ofNat (0x10000 + (h - 0xD800) * 0x400 + (l - 0xDC00)) :: joinUnits ns
    else
      (if 0xD800 ≤ h && h < 0xE000 then Char.ofNat 0xFFFD else Char.ofNat h) ::
        joinUnits (l :: ns)

/-- Reads a string from its opening quote. -/
def readString (c : Cursor) : Except Fault (String × Cursor) := do
  let (units, cur) ← stringUnits c.position (c.position + 1) (c.rest.drop 1)
  return (String.ofList (joinUnits units), cur)

/-- The value of a run of ASCII digits. -/
def digitsValue (cs : List Char) : Nat :=
  cs.foldl (fun n c => n * 10 + (c.toNat - 0x30)) 0

/-- The digits behind a point, when the point is followed by one. -/
def fractionDigits (cs : List Char) : List Char :=
  match cs with
  | '.' :: cs => cs.takeWhile Char.isDigit
  | _ => []

/-- The exponent and the number of its characters, when a whole one stands in front. -/
def exponentPart (cs : List Char) : Option (Int × Nat) :=
  match cs with
  | [] => none
  | e :: cs =>
    if e = 'e' || e = 'E' then
      let (negative, signs, cs) :=
        match cs with
        | '-' :: cs => (true, 1, cs)
        | '+' :: cs => (false, 1, cs)
        | cs => (false, 0, cs)
      let ds := cs.takeWhile Char.isDigit
      -- an `e` without digits behind it belongs to no number
      if ds.isEmpty then none
      else
        let n : Int := digitsValue ds
        some (if negative then -n else n, 1 + signs + ds.length)
    else none

/-- The digits in front of a number's point: a zero alone, or digits that start with no zero. -/
def integerDigits (cs : List Char) : List Char :=
  match cs with
  | '0' :: _ => ['0']
  | cs => cs.takeWhile Char.isDigit

/-- Reads a number. Integers may have any number of digits here; the bound of 4300 digits on what is
made an integer is left out. -/
def readNumber (c : Cursor) : Except Fault (Json × Cursor) :=
  let (negative, signs, cs) :=
    match c.rest with
    | '-' :: cs => (true, 1, cs)
    | cs => (false, 0, cs)
  let whole := integerDigits cs
  if whole.isEmpty then c.fail .value
  else
    let cs := cs.drop whole.length
    let part := fractionDigits cs
    let partLength := if part.isEmpty then 0 else part.length + 1
    let cs := cs.drop partLength
    match exponentPart cs with
    | some (e, length) =>
      .ok (.real (Binary64.ofDecimal negative (digitsValue (whole ++ part)) (e - part.length)),
        c.advance (signs + whole.length + partLength + length))
    | none =>
      let next := c.advance (signs + whole.length + partLength)
      -- without a point and an exponent the number is an integer
      if part.isEmpty then
        let n : Int := digitsValue whole
        .ok (.int (if negative then -n else n), next)
      else
        .ok (.real (Binary64.ofDecimal negative (digitsValue (whole ++ part)) (-part.length)),
          next)

/-- The words that are values by themselves. -/
def namedValues : List (String × Json) :=
  [("null", .null), ("true", .bool true), ("false", .bool false), ("NaN", .real .nan),
    ("Infinity", .real (.infinity false)), ("-Infinity", .real (.infinity true))]

/-- Reads a value without parts. -/
def readLeaf (c : Cursor) : Except Fault (Json × Cursor) :=
  -- `-Infinity` starts as numbers do, so the words are tried first
  match namedValues.find? fun (w, _) => w.toList.isPrefixOf c.rest with
  | some (w, v) => .ok (v, c.advance w.length)
  | none => readNumber c

mutual

/-- Reads one value, with room for so many levels. A value in front of `n` characters takes at most
`2 * n + 1` steps, and the items of an array at most `2 * n + 2`: an opening bracket is one
character and two steps. -/
def readValue : (fuel levels : Nat) → Cursor → Except Fault (Json × Cursor)
  | 0, _, c => c.fail .value
  | fuel + 1, levels, c =>
    match c.rest with
    | '"' :: _ => do
      let (s, c) ← readString c
      return (.str s, c)
    | '[' :: _ => do
      let levels ← deeper .array levels
      let c := (c.advance 1).skipSpacing
      match c.rest with
      | ']' :: _ => return (.arr [], c.advance 1)
      | _ =>
        let (vs, c) ← readItems fuel levels c
        return (.arr vs, c)
    | '{' :: _ => do
      let levels ← deeper .object levels
      let c := (c.advance 1).skipSpacing
      match c.rest with
      | '}' :: _ => return (.obj [], c.advance 1)
      | _ =>
        let (ms, c) ← readMembers fuel levels c
        return (.obj (Keyed.ofAssoc (Assoc.ofPairs ms)), c)
    | _ => readLeaf c

/-- Reads the items of an array up to its closing bracket. -/
def readItems : (fuel levels : Nat) → Cursor → Except Fault (List Json × Cursor)
  | 0, _, c => c.fail .value
  | fuel + 1, levels, c => do
    let (v, c) ← readValue fuel levels c
    let c := c.skipSpacing
    match c.rest with
    | ']' :: _ => return ([v], c.advance 1)
    | ',' :: _ =>
      let (vs, c) ← readItems fuel levels (c.advance 1).skipSpacing
      return (v :: vs, c)
    | _ => c.fail .comma

/-- Reads the members of an object up to its closing brace. -/
def readMembers : (fuel levels : Nat) → Cursor → Except Fault (List (String × Json) × Cursor)
  | 0, _, c => c.fail .name
  | fuel + 1, levels, c => do
    match c.rest with
    | '"' :: _ =>
      let (k, c) ← readString c
      let c := c.skipSpacing
      match c.rest with
      | ':' :: _ =>
        let (v, c) ← readValue fuel levels (c.advance 1).skipSpacing
        let c := c.skipSpacing
        match c.rest with
        | '}' :: _ => return ([(k, v)], c.advance 1)
        | ',' :: _ =>
          let (ms, c) ← readMembers fuel levels (c.advance 1).skipSpacing
          return ((k, v) :: ms, c)
        | _ => c.fail .comma
      | _ => c.fail .colon
    | _ => c.fail .name

end

/-- Reads a text as one JSON value whose arrays and objects are nested on so many levels at most. -/
def parseWithin (levels : Nat) (text : String) : Except Fault Json :=
  let cs := text.toList
  match cs with
  -- a byte order mark is refused, not skipped
  | '\uFEFF' :: _ => failAt .byteOrderMark 0
  | _ => do
    let start : Cursor := ⟨0, cs⟩
    let (v, c) ← readValue (2 * cs.length + 1) levels start.skipSpacing
    let c := c.skipSpacing
    if c.rest.isEmpty then return v else c.fail .extraData

/-- Reads a text as one JSON value of any nesting: a text has no more brackets than characters. -/
def parse (text : String) : Except Fault Json := parseWithin text.toList.length text

end Json

end ODataService
