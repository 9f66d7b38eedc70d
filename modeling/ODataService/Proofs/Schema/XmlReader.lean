import Mathlib.Data.List.Nodup
import ODataService.Schema.Xml
import ODataService.Text.Digit
import ODataService.Text.Split

/-!
# Reading XML documents

A reader of documents whose elements hold nothing but elements and white space. It works on pieces.
A `<` stands in front of every tag and nowhere else, so a document is cut there; a tag is cut at the
double quotes around the values of its attributes, and a value in front of its references, each of
which starts with a `&`. The tags then nest.

What is read is what every reader of XML makes of the document. Much that others read is refused:
names with letters beyond ASCII, values in single quotes, and white space in a value other than
blanks, unless a reference stands for it, since readers take it for blanks.
-/

namespace ODataService.Xml

/-! ## Characters -/

/-- The characters that a document may consist of, or refer to. -/
def isLegal (c : Char) : Bool :=
  let n := c.toNat
  n == 0x09 || n == 0x0A || n == 0x0D || (0x20 ≤ n && n ≤ 0xD7FF) || (0xE000 ≤ n && n ≤ 0xFFFD) ||
    0x10000 ≤ n

/-- Whether a document may consist of the characters of a text, or refer to them. -/
def isLegalText (s : String) : Bool := s.toList.all isLegal

/-- White space between tags and between attributes. -/
def isSpace (c : Char) : Bool := c == ' ' || c == '\t' || c == '\r' || c == '\n'

def isNameStart (c : Char) : Bool := c.isAlpha || c == '_' || c == ':'

def isNameChar (c : Char) : Bool := isNameStart c || c.isDigit || c == '-' || c == '.'

/-- Reads a name. -/
def readName? (cs : List Char) : Option String :=
  match cs with
  | c :: rest => if isNameStart c && rest.all isNameChar then some (String.ofList cs) else none
  | [] => none

/-! ## Values of attributes -/

/-- Whether a character stands for itself in a value. -/
def isPlain (c : Char) : Bool := isLegal c && 0x20 ≤ c.toNat && c != '<'

/-- The characters that have names. -/
def entities : List (String × Char) :=
  [("amp", '&'), ("lt", '<'), ("gt", '>'), ("quot", '"'), ("apos", '\'')]

/-- The character that a reference stands for, by its name or by the digits of its code point. -/
def reference? (name : List Char) : Option Char :=
  match name with
  | '#' :: digits =>
    let n := Text.decimalValue digits
    if !digits.isEmpty && digits.all Char.isDigit && (Char.ofNat n).toNat == n &&
      isLegal (Char.ofNat n) then some (Char.ofNat n) else none
  | _ => entities.lookup (String.ofList name)

/-- Reads characters that stand for themselves. -/
def plain? (cs : List Char) : Option (List Char) := if cs.all isPlain then some cs else none

/-- Reads a reference, without the `&` in front, and the characters behind it. -/
def referencePiece? (cs : List Char) : Option (List Char) :=
  match Text.cut ';' cs with
  | (name, some behind) => do
    let c ← reference? name
    let behind ← plain? behind
    return c :: behind
  | (_, none) => none

/-- Reads the value of an attribute. -/
def unescape? (cs : List Char) : Option (List Char) :=
  match Text.splitOn '&' cs with
  | front :: pieces => do
    let front ← plain? front
    let pieces ← pieces.mapM referencePiece?
    return front ++ pieces.flatten
  | [] => none

/-! ## Tags -/

/-- A tag: the start of an element, its end, or an element without children. -/
inductive Tag where
  | opening (name : String) (attributes : List (String × XmlValue))
  | closing (name : String)
  | empty (name : String) (attributes : List (String × XmlValue))

/-- Reads the end of a tag and the white space behind it: whether the element is empty. -/
def readEnd? (cs : List Char) : Option Bool :=
  match cs.dropWhile isSpace with
  | '/' :: '>' :: rest => if rest.all isSpace then some true else none
  | '>' :: rest => if rest.all isSpace then some false else none
  | _ => none

/-- Reads the name of an attribute, between white space and the equals sign. -/
def readLabel? (cs : List Char) : Option String :=
  match Text.cut '=' cs with
  | (c :: name, some []) => if isSpace c then readName? (name.dropWhile isSpace) else none
  | _ => none

/-- Reads attributes and the end of their tag. The names of attributes and their values take turns,
since there is a quote between them. -/
def readAttributes? : List (List Char) → Option (List (String × XmlValue) × Bool)
  | label :: value :: pieces => do
    let name ← readLabel? label
    let value ← unescape? value
    let (attributes, isEmpty) ← readAttributes? pieces
    return ((name, .text (String.ofList value)) :: attributes, isEmpty)
  | [last] => (readEnd? last).map fun isEmpty => ([], isEmpty)
  | [] => none

/-- Reads a tag, without the `<` in front, and the white space behind it. -/
def readTag? (cs : List Char) : Option Tag :=
  match cs with
  | '/' :: cs =>
    match Text.cut '>' cs with
    | (name, some rest) => if rest.all isSpace then (readName? name).map .closing else none
    | (_, none) => none
  | cs => do
    let name ← readName? (cs.takeWhile isNameChar)
    let (attributes, isEmpty) ← readAttributes? (Text.splitOn '"' (cs.dropWhile isNameChar))
    -- no attribute is given twice
    if (attributes.map Prod.fst).Nodup then
      return if isEmpty then .empty name attributes else .opening name attributes
    else none

/-- Reads tags with white space between them. -/
def readTags? (cs : List Char) : Option (List Tag) :=
  match Text.splitOn '<' cs with
  | front :: pieces => if front.all isSpace then pieces.mapM readTag? else none
  | [] => none

/-! ## Elements -/

/-- An element whose end is still to be read, and its siblings in front. -/
structure Unfinished where
  name : String
  attributes : List (String × XmlValue)
  siblings : List Xml

/-- Puts elements together from their tags. The elements that are being read stand innermost first,
next to the last children that are complete. -/
def assemble? : List Unfinished → List Xml → List Tag → Option (List Xml)
  | [], xs, [] => some xs
  | _ :: _, _, [] => none
  | stack, xs, .empty name attributes :: ts =>
    assemble? stack (xs ++ [.element name attributes []]) ts
  | stack, xs, .opening name attributes :: ts => assemble? (⟨name, attributes, xs⟩ :: stack) [] ts
  | u :: stack, xs, .closing name :: ts =>
    if name = u.name then assemble? stack (u.siblings ++ [.element u.name u.attributes xs]) ts
    else none
  | [], _, .closing _ :: _ => none

/-- What a document starts with. -/
def declaration : String := "<?xml version=\"1.0\" encoding=\"UTF-8\"?>"

/-- Reads a document: its declaration and a single element. -/
def read? (text : String) : Option Xml := do
  let cs ← text.toList.dropPrefix? declaration.toList
  let tags ← readTags? cs
  match ← assemble? [] [] tags with
  | [x] => return x
  | _ => none

end ODataService.Xml
