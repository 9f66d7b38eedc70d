import ODataService.Json.Coercion

/-!
# XML documents

Elements with attributes and child elements, without text between them. Every element stands on a
line of its own, two blanks deeper than its parent.
-/

namespace ODataService

/-- The value of an attribute: a text, or what stands in the document as it is. -/
inductive XmlValue where
  | text (s : String)
  | verbatim (s : String)
deriving DecidableEq, Repr

/-- An XML element. -/
inductive Xml where
  | element (name : String) (attributes : List (String × XmlValue)) (children : List Xml)
deriving Inhabited, Repr

namespace Xml

/-- A character inside an attribute value. -/
def escapeChar (c : Char) : String :=
  match c with
  | '&' => "&amp;"
  | '<' => "&lt;"
  | '>' => "&gt;"
  | '"' => "&quot;"
  | '\r' => "&#13;"
  | '\n' => "&#10;"
  | '\t' => "&#09;"
  | c => String.ofList [c]

/-- An attribute value. -/
def escape (s : String) : String := String.join (s.toList.map escapeChar)

/-- The value of an attribute as it stands in the document. -/
def writeValue : XmlValue → String
  | .text s => escape s
  | .verbatim s => s

/-- An attribute with a blank in front. -/
def writeAttribute (a : String × XmlValue) : String := s!" {a.1}=\"{writeValue a.2}\""

/-- The texts of the characters that are escaped in attribute values. -/
def escapedTexts : List String := ["&", "<", ">", "\"", "\r", "\n", "\t"]

/-- Whether a value is the text of a character that is escaped. -/
def isEscapedText : Json → Bool
  | .str s => escapedTexts.contains s
  | _ => false

/-- The fault of a value that cannot be an attribute's. -/
def unwritable (v : Json) : ValueFault := .unwritable v.displayInner v.kindName

/-- A value as the value of an attribute. Besides texts, arrays and objects can be written, unless
one of the parts that are found in them is the text of a character that is escaped. -/
def attributeValue : Json → Except ValueFault XmlValue
  | .str s => .ok (.text s)
  | .arr items =>
    if items.any isEscapedText then .error (unwritable (.arr items))
    else .ok (.verbatim (Json.arr items).display)
  | .obj members =>
    if members.any fun (k, _) => k.isAmong escapedTexts then .error (unwritable (.obj members))
    else .ok (.verbatim (Json.obj members).display)
  | v => .error (unwritable v)

/-- The line break and the blanks in front of an element. -/
def lineStart (depth : Nat) : String := "\n" ++ String.ofList (List.replicate (2 * depth) ' ')

mutual

/-- An element at the given depth. -/
def write (depth : Nat) : Xml → String
  | .element name attributes children =>
    let start := "<" ++ name ++ String.join (attributes.map writeAttribute)
    match children with
    | [] => start ++ " />"
    | child :: rest =>
      start ++ ">" ++ writeAll (depth + 1) (child :: rest) ++ lineStart depth ++ "</" ++ name ++ ">"

/-- Elements at the given depth, each on its own line. -/
def writeAll (depth : Nat) : List Xml → String
  | [] => ""
  | x :: xs => lineStart depth ++ write depth x ++ writeAll depth xs

end

/-- A document with its declaration. -/
def document (root : Xml) : String :=
  "<?xml version=\"1.0\" encoding=\"UTF-8\"?>\n" ++ write 0 root

end Xml

end ODataService
