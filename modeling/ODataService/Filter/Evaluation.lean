import ODataService.Filter.Tree
import ODataService.Text.Split

/-!
# Which records a filter keeps

A missing property counts as null. Values of different kinds are unequal and not ordered, so that
comparing them is false and no error; booleans are the numbers 0 and 1. The text functions are
false on everything but strings.
-/

namespace ODataService.Filter

/-- Whether a property's value stands in the relation to a literal. -/
def compares (op : Comparator) (value : Json) (literal : Scalar) : Bool :=
  match value.scalar? with
  | none => op == .ne
  | some v =>
    match op with
    | .eq => v.equal literal
    | .ne => !v.equal literal
    | .gt => literal.less v
    | .ge => literal.atMost v
    | .lt => v.less literal
    | .le => v.atMost literal

def textHolds (function : TextFunction) (value : Json) (argument : String) : Bool :=
  match value with
  | .str s =>
    match function with
    | .startswith => Text.startsWith s argument
    | .endswith => Text.endsWith s argument
    | .contains | .substringof => Text.contains s argument
  | _ => false

/-- Whether a property's value is one of the given ones. -/
def isOneOf (value : Json) (values : List Scalar) : Bool :=
  match value.scalar? with
  | some v => values.any fun w => v.sameKey w
  | none => false

mutual

def holds : Filter → Record → Bool
  | .compare field op literal, r => compares op (Json.member r field) literal
  | .logical .and operands, r => allHold operands r
  | .logical .or operands, r => anyHolds operands r
  | .not operand, r => !holds operand r
  | .text function field argument, r => textHolds function (Json.member r field) argument
  | .oneOf field values, r => isOneOf (Json.member r field) values

def allHold : List Filter → Record → Bool
  | [], _ => true
  | f :: fs, r => holds f r && allHold fs r

def anyHolds : List Filter → Record → Bool
  | [], _ => false
  | f :: fs, r => holds f r || anyHolds fs r

end

/-- A missing filter keeps every record. -/
def admits (filter : Option Filter) (r : Record) : Bool :=
  match filter with
  | some f => holds f r
  | none => true

end ODataService.Filter
