import ODataService.Text.Blank

/-!
# Splitting texts

Splitting at a character, at a marker of several characters and at line ends. Joining the pieces
with what was split at gives the text back.
-/

namespace ODataService.Text

/-- The pieces between the occurrences of `sep`; there is always at least one. -/
def splitOn (sep : Char) : List Char → List (List Char)
  | [] => [[]]
  | c :: cs => if c = sep then [] :: splitOn sep cs else consHead c (splitOn sep cs)

/-- Splits at each occurrence of `marker`, leftmost first and without overlap; `skip` characters
still belong to the occurrence just found. -/
def splitOnMarkerFrom (marker : List Char) : Nat → List Char → List (List Char)
  | _, [] => [[]]
  | skip + 1, _ :: cs => splitOnMarkerFrom marker skip cs
  | 0, c :: cs =>
    if marker.isPrefixOf (c :: cs) then [] :: splitOnMarkerFrom marker (marker.length - 1) cs
    else consHead c (splitOnMarkerFrom marker 0 cs)

/-- The pieces between the occurrences of `marker`. -/
def splitOnMarker (marker cs : List Char) : List (List Char) := splitOnMarkerFrom marker 0 cs

/-- Whether `marker` occurs in the text. -/
def occursIn (marker : List Char) : List Char → Bool
  | [] => marker.isEmpty
  | c :: cs => marker.isPrefixOf (c :: cs) || occursIn marker cs

/-- The text before the first `sep` and, if there is one, the text behind it. -/
def cut (sep : Char) : List Char → List Char × Option (List Char)
  | [] => ([], none)
  | c :: cs => if c = sep then ([], some cs) else let (a, b) := cut sep cs; (c :: a, b)

/-- The lines of a text; a line ends with LF or CRLF. -/
def lines : List Char → List (List Char)
  | [] => [[]]
  | '\r' :: '\n' :: cs => [] :: lines cs
  | c :: cs => if c = '\n' then [] :: lines cs else consHead c (lines cs)

/-- The non-blank pieces of a comma-separated list, trimmed. -/
def commaList (s : String) : List String :=
  (((splitOn ',' s.toList).map trim).filter (! ·.isEmpty)).map String.ofList

/-- Joins texts with a separator between them. -/
def joinWith (sep : String) (parts : List String) : String := sep.intercalate parts

/-- Whether `a` starts with `b`. -/
def startsWith (a b : String) : Bool := b.toList.isPrefixOf a.toList

/-- Whether `a` ends with `b`. -/
def endsWith (a b : String) : Bool := b.toList.isSuffixOf a.toList

/-- Whether `b` occurs in `a`. -/
def contains (a b : String) : Bool := occursIn b.toList a.toList

/-- The text without the characters `c` at its end. -/
def dropTrailing (c : Char) (s : String) : String :=
  String.ofList (s.toList.reverse.dropWhile (· == c)).reverse

/-- The text without the characters `c` at either end. -/
def dropAround (c : Char) (s : String) : String :=
  dropTrailing c (String.ofList (s.toList.dropWhile (· == c)))

end ODataService.Text
