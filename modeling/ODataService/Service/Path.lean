import ODataService.Batch.Dispatch
import ODataService.Text.Word

/-!
# Paths

What a path below the base path names: the service itself, its `$metadata`, batches, an entity set,
the number of its records, or one record. The key of a record stands in parentheses behind the name
of the entity set. A slash may follow, and after it one line break.
-/

namespace ODataService

/-- What a path names. -/
inductive Route where
  | service
  | metadata
  | batch
  | count (entitySet : String)
  | collection (entitySet : String)
  /-- A record by the text in parentheses. -/
  | entity (entitySet key : String)
  | unknown
deriving DecidableEq, Repr

namespace Route

/-- The characters that the name of an entity set starts with. -/
def isNameStart (c : Char) : Bool := c.isAlpha || c == '_'

/-- The characters of the name of an entity set. -/
def isNameChar (c : Char) : Bool := Text.isWord c || c == '.'

/-- The name of the entity set at the start of a path, and what follows it. -/
def cutName? : List Char → Option (List Char × List Char)
  | '/' :: c :: cs =>
    if isNameStart c then some (c :: cs.takeWhile isNameChar, cs.dropWhile isNameChar) else none
  | _ => none

/-- Whether nothing but a slash and a line break is left of a path. -/
def isEnd (cs : List Char) : Bool :=
  match cs with
  | [] | ['/'] | ['\n'] | ['/', '\n'] => true
  | _ => false

/-- The text behind an opening parenthesis up to the closing one, which must end the path. -/
def cutKey? (cs : List Char) : Option (List Char) :=
  match Text.cut ')' cs with
  | (key, some rest) => if isEnd rest then some key else none
  | (_, none) => none

/-- What a path names, given what follows the name of the entity set. -/
def ofRest (name : String) (rest : List Char) : Route :=
  if isEnd rest then collection name
  else
    match rest with
    | '/' :: '$' :: 'c' :: 'o' :: 'u' :: 'n' :: 't' :: cs =>
      if isEnd cs then count name else unknown
    | '(' :: cs =>
      match cutKey? cs with
      | some key => entity name (String.ofList key)
      | none => unknown
    | _ => unknown

/-- The path of the `$metadata` document, without slashes at its end. -/
def metadataPath : String := "/$metadata"

/-- What a path names. -/
def ofPath (path : String) : Route :=
  if path = "" || path = "/" then service
  else if Text.dropTrailing '/' path = metadataPath then metadata
  else if Batch.isBatchPath path then batch
  else
    match cutName? path.toList with
    | some (name, rest) => ofRest (String.ofList name) rest
    | none => unknown

end Route

/-! ## Keys -/

namespace EntityKey

/-- A text in which pairs of quotes stand for one quote each. -/
def unquote : List Char → List Char
  | '\'' :: '\'' :: cs => '\'' :: unquote cs
  | c :: cs => c :: unquote cs
  | [] => []

/-- The text between the quotes that surround it, if they do. -/
def inner? (cs : List Char) : Option (List Char) :=
  match cs with
  | '\'' :: rest => if rest.getLast? = some '\'' then some rest.dropLast else none
  | _ => none

/-- The key that a text denotes; it may be quoted. -/
def ofChars (cs : List Char) : List Char :=
  match inner? (Text.trim cs) with
  | some inner => unquote inner
  | none => Text.trim cs

/-- The rejection of a key without characters. -/
def emptyKey : Rejection := ⟨.badRequest, "Entity key must not be empty", none, none⟩

/-- Reads the key of a record. -/
def parse (raw : String) : Except Rejection String :=
  match ofChars raw.toList with
  | [] => .error emptyKey
  | key => .ok (String.ofList key)

end EntityKey

end ODataService
