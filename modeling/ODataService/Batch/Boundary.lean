import ODataService.Text.Blank

/-!
# Boundaries of multipart bodies

The value of the parameter `boundary` in the description of a content type, and whether the head of
a part announces a multipart body. Both are searched for without regard to case.
-/

namespace ODataService.Batch

/-- Whether a character is the given lower-case letter in either case. The letter `i` has a dotted
capital and a dotless small form besides its own. -/
def isLetter (letter c : Char) : Bool :=
  c.toLower == letter || (letter == 'i' && (c == 'İ' || c == 'ı'))

/-- What follows a word, given in lower case, at the start of a text. -/
def behindWord? : (word text : List Char) → Option (List Char)
  | [], text => some text
  | _ :: _, [] => none
  | w :: ws, c :: cs => if isLetter w c then behindWord? ws cs else none

/-- Whether a character is a quotation mark. -/
def isQuote (c : Char) : Bool := c == '"' || c == '\''

/-- The characters of a boundary. -/
def isBoundaryChar (c : Char) : Bool := !isQuote c && c != ';' && c != ',' && !Text.isBlank c

/-- The text behind a quotation mark at its start, if there is one. -/
def behindQuote : List Char → List Char
  | c :: cs => if isQuote c then cs else c :: cs
  | [] => []

/-- The boundary that a text starts to give; an empty one is none. -/
def boundaryHere? (cs : List Char) : Option (List Char) :=
  match behindWord? "boundary=".toList cs with
  | none => none
  | some value =>
    match (behindQuote value).takeWhile isBoundaryChar with
    -- `boundary=` with nothing behind it does not end the search
    | [] => none
    | boundary => some boundary

/-- The first boundary that a text gives. -/
def boundary? : List Char → Option (List Char)
  | [] => none
  | c :: cs => (boundaryHere? (c :: cs)).or (boundary? cs)

/-- Whether a text starts to announce a multipart body. -/
def announcesHere (cs : List Char) : Bool :=
  match behindWord? "content-type:".toList cs with
  | none => false
  -- blanks, line breaks among them, may stand between the name and the type
  | some type => (behindWord? "multipart/mixed".toList (Text.trimLeft type)).isSome

/-- Whether a text announces a multipart body. -/
def announcesMultipart : List Char → Bool
  | [] => false
  | c :: cs => announcesHere (c :: cs) || announcesMultipart cs

/-- The boundary that a header gives. -/
def boundaryOf? (contentType : Option String) : Option String :=
  (contentType.bind fun text => boundary? text.toList).map String.ofList

end ODataService.Batch
