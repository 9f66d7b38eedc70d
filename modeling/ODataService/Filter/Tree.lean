import ODataService.Json.Value

/-!
# Filter trees

What a `$filter` means: comparisons of a property with a literal, text functions, and their
combinations. `Filter.oneOf` has no text form; related records are looked up with it.

`Filter.toWhere` is the form in which a remote record store receives a filter.
-/

namespace ODataService

/-- The comparison operators. -/
inductive Comparator where
  | eq
  | ne
  | gt
  | ge
  | lt
  | le
deriving DecidableEq, Repr

namespace Comparator

/-- All operators. -/
def all : List Comparator := [eq, ne, gt, ge, lt, le]

/-- The operator's name in a filter text. -/
def name : Comparator → String
  | eq => "eq"
  | ne => "ne"
  | gt => "gt"
  | ge => "ge"
  | lt => "lt"
  | le => "le"

/-- The operator's symbol in the wire form. -/
def symbol : Comparator → String
  | eq => "$eq"
  | ne => "$ne"
  | gt => "$gt"
  | ge => "$gte"
  | lt => "$lt"
  | le => "$lte"

/-- The operator with the given name. -/
def ofName? (name : String) : Option Comparator := all.find? (·.name == name)

end Comparator

inductive TextFunction where
  | contains
  | startswith
  | endswith
  | substringof
deriving DecidableEq, Repr

namespace TextFunction

def all : List TextFunction := [contains, startswith, endswith, substringof]

def name : TextFunction → String
  | contains => "contains"
  | startswith => "startswith"
  | endswith => "endswith"
  | substringof => "substringof"

/-- The function's symbol in the wire form; `substringof` is `contains` with its arguments
swapped. -/
def symbol : TextFunction → String
  | contains => "$contains"
  | startswith => "$startsWith"
  | endswith => "$endsWith"
  | substringof => "$contains"

def ofName? (name : String) : Option TextFunction := all.find? (·.name == name)

end TextFunction

/-- The connectives. -/
inductive Connective where
  | and
  | or
deriving DecidableEq, Repr

/-- The connective's name in a filter text. -/
def Connective.name : Connective → String
  | .and => "and"
  | .or => "or"

inductive Filter where
  | compare (field : String) (op : Comparator) (value : Scalar)
  | logical (op : Connective) (operands : List Filter)
  | not (operand : Filter)
  | text (function : TextFunction) (field argument : String)
  | oneOf (field : String) (values : List Scalar)
deriving Inhabited, Repr

namespace Filter

mutual

/-- The wire form of a filter. -/
def toWhere : Filter → Json
  | .compare field op value => .obj [(field, .obj [(op.symbol, value.toJson)])]
  | .logical op operands => .obj [("$" ++ op.name, .arr (toWhereList operands))]
  | .not operand => .obj [("$not", toWhere operand)]
  | .text function field argument => .obj [(field, .obj [(function.symbol, .str argument)])]
  | .oneOf field values => .obj [(field, .obj [("$in", .arr (values.map Scalar.toJson))])]

/-- The wire forms of the operands. -/
def toWhereList : List Filter → List Json
  | [] => []
  | f :: fs => toWhere f :: toWhereList fs

end

/-- Combines filters with `and`, leaving out missing ones; a single one stays as it is. -/
def all (filters : List (Option Filter)) : Option Filter :=
  match filters.filterMap id with
  | [] => none
  | [f] => some f
  | fs => some (.logical .and fs)

end Filter

end ODataService
