import ODataService.Text.Blank
import ODataService.Text.Digit

/-!
# Request lines

A request line is a method, a URL and, optionally, the version of the protocol, with blanks
between them. The URL may contain blanks itself: it is all that stands between the method and a
version at the end of the line.
-/

namespace ODataService.Batch

/-- The methods that a part of a batch may use. -/
def partMethods : List String := ["GET", "POST", "PATCH", "PUT", "DELETE"]

/-- Whether a word names a version of the protocol: one digit, or two around a point. -/
def isVersion (word : List Char) : Bool :=
  match word with
  | ['H', 'T', 'T', 'P', '/', major] => Text.isDecimal major
  | ['H', 'T', 'T', 'P', '/', major, '.', minor] => Text.isDecimal major && Text.isDecimal minor
  | _ => false

/-- The text in front of its last word, without the blanks between, and that word. -/
def cutLastWord (cs : List Char) : List Char × List Char :=
  let (word, front) := cs.reverse.span (!Text.isBlank ·)
  (Text.trimRight front.reverse, word.reverse)

/-- The URL in the text behind the method. -/
def urlPart (cs : List Char) : List Char :=
  let (front, word) := cutLastWord cs
  if isVersion word && !front.isEmpty then front else cs

def urlAfter? (line : List Char) (method : String) : Option (String × String) :=
  if method.toList.isPrefixOf line then
    match line.drop method.toList.length with
    | c :: cs =>
      if Text.isBlank c then some (method, String.ofList (urlPart (Text.trimLeft cs))) else none
    | [] => none
  else none

/-- The method and URL of a request line. -/
def requestLine? (line : List Char) : Option (String × String) :=
  partMethods.findSome? (urlAfter? (Text.trim line))

end ODataService.Batch
