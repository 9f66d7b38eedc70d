import ODataService.Json.Writer
import ODataService.Number.Reading

/-!
# Using values of an unexpected kind

What a remote record store answers may be any value. A count may arrive as a text or a boolean, a
list as a text or an object. This module says how such values are used and when they cannot be.
-/

namespace ODataService

/-- Why a value cannot be used. -/
inductive ValueFault where
  /-- A value of the given kind is no record: it lacks the part that is asked for. -/
  | lacks (kind part : String)
  /-- A value of the given kind is no list. -/
  | notIterable (kind : String)
  /-- An entry of a list is no pair of a name and a value. -/
  | notAPair (index length : Nat)
  /-- An entry of a list has no length at all. -/
  | noSequence (index : Nat)
  /-- A value of the given kind is no key. -/
  | unhashable (kind : String)
  /-- Values of the given kinds are not ordered. -/
  | unordered (comparison left right : String)
  /-- A value of the given kind, with the text that stands for it, is no part of a document. -/
  | unwritable (text kind : String)
  /-- A value of the given kind is no count. -/
  | notACount (kind : String)
  /-- A text is no number. -/
  | unreadable (fault : Number.Fault)
  /-- A value of the given kind is no number. -/
  | notReal (kind : String)
  /-- An integer lies beyond the greatest finite number. -/
  | tooLarge
  /-- A number that is not finite has no integer part. -/
  | infinite
  | notANumber
deriving DecidableEq, Repr

namespace ValueFault

def kind : ValueFault → String
  | lacks .. => "AttributeError"
  | notIterable _ | noSequence _ | unhashable _ | unordered .. | unwritable .. | notACount _
  | notReal _ => "TypeError"
  | notAPair .. | unreadable _ | notANumber => "ValueError"
  | infinite | tooLarge => "OverflowError"

/-- The wording of the fault. -/
def message : ValueFault → String
  | lacks kind part => s!"'{kind}' object has no attribute '{part}'"
  | notIterable kind => s!"'{kind}' object is not iterable"
  | notAPair index length =>
    s!"dictionary update sequence element #{index} has length {length}; 2 is required"
  | noSequence index => s!"cannot convert dictionary update sequence element #{index} to a sequence"
  | unhashable kind => s!"unhashable type: '{kind}'"
  | unordered comparison left right =>
    s!"'{comparison}' not supported between instances of '{left}' and '{right}'"
  | unwritable text kind => s!"cannot serialize {text} (type {kind})"
  | notACount kind =>
    "int() argument must be a string, a bytes-like object or a real number, not " ++
      Text.quoted kind
  | unreadable fault => fault.message
  | notReal kind => "float() argument must be a string or a real number, not " ++ Text.quoted kind
  | tooLarge => "int too large to convert to float"
  | infinite => "cannot convert float infinity to integer"
  | notANumber => "cannot convert float NaN to integer"

end ValueFault

namespace Json

/-- A value as an integer: a number is cut at its point, a text is read, a boolean is 0 or 1. -/
def asInteger : Json → Except ValueFault Int
  | .bool b => .ok (if b then 1 else 0)
  | .int n => .ok n
  | .real .nan => .error .notANumber
  | .real (.infinity _) => .error .infinite
  | .real (.finite s m e) => .ok (Binary64.truncate s m e)
  | .str s => (Number.readInt s).mapError .unreadable
  | v => .error (.notACount v.kindName)

/-- A value as a number with a fraction: a text is read, a boolean is 0 or 1. -/
def asReal : Json → Except ValueFault Binary64
  | .bool b => .ok (Binary64.ofInt (if b then 1 else 0))
  | .int n =>
    match Binary64.ofInt n with
    | .infinity _ => .error .tooLarge
    | x => .ok x
  | .real x => .ok x
  | .str s => (Number.readReal s).mapError .unreadable
  | v => .error (.notReal v.kindName)

/-- A value as a list: the characters of a text, the names of an object's members. -/
def asItems : Json → Except ValueFault (List Json)
  | .arr items => .ok items
  | .str s => .ok (s.toList.map fun c => .str (String.ofList [c]))
  | .obj members => .ok (members.map fun (k, _) => k.toJson)
  | v => .error (.notIterable v.kindName)

end Json

end ODataService
