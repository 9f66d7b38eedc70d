import ODataService.Json.Value
import ODataService.Number.Shortest
import ODataService.Text.Quoted

/-!
# Writing JSON texts and value texts

`Json.compact` and `Json.text` write a value as JSON, without and with blanks after separators.
Characters beyond ASCII are written as escapes of their UTF-16 units, so the text is ASCII.

`Json.display` is the text that stands for a value inside other texts, such as the identifier in
an entity tag or the sort text of an array: a string stands for itself, other values are written
in a notation of their own.
-/

namespace ODataService

namespace Json

def escapeUnit (n : Nat) : List Char := '\\' :: 'u' :: Text.hexDigits 4 n

/-- One character of a string. -/
def escapeChar (c : Char) : List Char :=
  if c = '"' then ['\\', '"']
  else if c = '\\' then ['\\', '\\']
  else if c = '\n' then ['\\', 'n']
  else if c = '\r' then ['\\', 'r']
  else if c = '\t' then ['\\', 't']
  else if c.toNat = 0x08 then ['\\', 'b']
  else if c.toNat = 0x0C then ['\\', 'f']
  else if 0x20 ≤ c.toNat && c.toNat ≤ 0x7E then [c]
  else if c.toNat < 0x10000 then escapeUnit c.toNat
  else
    let n := c.toNat - 0x10000
    escapeUnit (0xD800 + n / 0x400) ++ escapeUnit (0xDC00 + n % 0x400)

/-- A string as JSON text. -/
def writeString (s : String) : String :=
  String.ofList ('"' :: s.toList.flatMap escapeChar ++ ['"'])

/-- What stands between the items of an array or object and behind a member's name. -/
structure Separators where
  item : String
  colon : String

/-- Separators without blanks. -/
def Separators.compact : Separators := ⟨",", ":"⟩

/-- Separators followed by a blank. -/
def Separators.spaced : Separators := ⟨", ", ": "⟩

/-- A value without parts as JSON text. -/
def writeScalar : Scalar → String
  | .null => "null"
  | .bool true => "true"
  | .bool false => "false"
  | .int n => toString n
  | .real x => NumberFormat.json.write x
  | .str s => writeString s

/-- The name of an object's member whose key is the scalar. Different keys may have one name. -/
def memberName : Scalar → String
  | .str s => s
  | k => writeScalar k

mutual

/-- A value as JSON text. -/
def write (sep : Separators) : Json → String
  | .null => writeScalar .null
  | .bool b => writeScalar (.bool b)
  | .int n => writeScalar (.int n)
  | .real x => writeScalar (.real x)
  | .str s => writeScalar (.str s)
  | .arr items => "[" ++ writeItems sep "" items ++ "]"
  | .obj members => "\x7b" ++ writeMembers sep "" members ++ "\x7d"

/-- The items of an array; `before` stands in front of the first. -/
def writeItems (sep : Separators) (before : String) : List Json → String
  | [] => ""
  | v :: vs => before ++ write sep v ++ writeItems sep sep.item vs

/-- The members of an object; `before` stands in front of the first. -/
def writeMembers (sep : Separators) (before : String) : List (Scalar × Json) → String
  | [] => ""
  | (k, v) :: ms =>
    before ++ writeString (memberName k) ++ sep.colon ++ write sep v ++
      writeMembers sep sep.item ms

end

/-- JSON text without blanks. -/
def compact (v : Json) : String := write .compact v

/-- JSON text with a blank behind each separator. -/
def text (v : Json) : String := write .spaced v

/-- A value without parts inside the text of an array or object: strings are quoted there. -/
def displayScalar : Scalar → String
  | .null => "None"
  | .bool true => "True"
  | .bool false => "False"
  | .int n => toString n
  | .real x => NumberFormat.plain.write x
  | .str s => Text.quoted s

mutual

/-- A value inside the text of an array or object. -/
def displayInner : Json → String
  | .null => displayScalar .null
  | .bool b => displayScalar (.bool b)
  | .int n => displayScalar (.int n)
  | .real x => displayScalar (.real x)
  | .str s => displayScalar (.str s)
  | .arr items => "[" ++ displayItems "" items ++ "]"
  | .obj members => "\x7b" ++ displayMembers "" members ++ "\x7d"

/-- The items of an array; `before` stands in front of the first. -/
def displayItems (before : String) : List Json → String
  | [] => ""
  | v :: vs => before ++ displayInner v ++ displayItems ", " vs

/-- The members of an object; `before` stands in front of the first. -/
def displayMembers (before : String) : List (Scalar × Json) → String
  | [] => ""
  | (k, v) :: ms => before ++ displayScalar k ++ ": " ++ displayInner v ++ displayMembers ", " ms

end

/-- The text that stands for a value inside another text. -/
def display : Json → String
  | .str s => s
  | v => displayInner v

end Json

end ODataService
