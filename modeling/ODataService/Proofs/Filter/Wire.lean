import Mathlib.Logic.Basic
import ODataService.Filter.Evaluation

/-!
# Reading wire forms of filters back

A wire form keeps the names of fields, the symbols of operators and the names of connectives in one
place: the key of a member. A field may be called `$and`, `$or` or `$not`, so the key alone does not
tell what a member is; the shape of the value does. Behind a connective stands a list, behind a
field an object with one symbol, and behind `$not` the wire form of a filter, whose one member is
never a symbol with a literal.

`ofWhere?` reads wire forms by this rule. It gives the filter back, with `contains` in the place of
`substringof` (`ofWhere?_toWhere`), because the two share a symbol. So the wire form tells this
filter (`toWhere_eq_iff`), and this filter keeps the same records (`holds_normal`).
-/

namespace ODataService

theorem Scalar.scalar?_toJson (a : Scalar) : a.toJson.scalar? = some a := by
  cases a <;> rfl

/-! ## Symbols -/

/-- The operator with a symbol. -/
def Comparator.ofSymbol? (symbol : String) : Option Comparator := all.find? (·.symbol == symbol)

theorem Comparator.ofSymbol?_symbol (op : Comparator) : ofSymbol? op.symbol = some op := by
  cases op <;> decide

namespace TextFunction

/-- The first function with a symbol. -/
def ofSymbol? (symbol : String) : Option TextFunction := all.find? (·.symbol == symbol)

/-- The function, with `contains` in the place of `substringof`. -/
def normal : TextFunction → TextFunction
  | substringof => contains
  | function => function

/-- A text function is read from its symbol, up to the order of its arguments. -/
theorem ofSymbol?_symbol (function : TextFunction) :
    ofSymbol? function.symbol = some function.normal := by
  cases function <;> decide

theorem symbol_normal (function : TextFunction) : function.normal.symbol = function.symbol := by
  cases function <;> rfl

/-- No function has the symbol of an operator. -/
theorem comparator_symbol (function : TextFunction) :
    Comparator.ofSymbol? function.symbol = none := by
  cases function <;> decide

end TextFunction

/-- The key of a connective in a wire form. -/
def Connective.key (op : Connective) : String := "$" ++ op.name

/-- The connective with a key. -/
def Connective.ofKey? (key : String) : Option Connective :=
  [Connective.and, .or].find? (·.key == key)

theorem Connective.ofKey?_key (op : Connective) : ofKey? op.key = some op := by
  cases op <;> decide

namespace Filter

/-! ## Reading -/

/-- The filter that tests a field: a symbol and what stands behind it. -/
def test? (field symbol : String) (v : Json) : Option Filter :=
  match Comparator.ofSymbol? symbol with
  | some op => v.scalar?.map (.compare field op)
  | none =>
    match TextFunction.ofSymbol? symbol, v with
    | some function, .str argument => some (.text function field argument)
    | none, .arr items =>
      if symbol = "$in" then (items.mapM Json.scalar?).map (.oneOf field) else none
    | _, _ => none

mutual

/-- The filter that a member of a wire form stands for. -/
def ofMember? (key : String) : Json → Option Filter
  | .arr items => do
    let op ← Connective.ofKey? key
    let operands ← ofWheres? items
    return .logical op operands
  | .obj [(.str symbol, v)] =>
    match test? key symbol v with
    | some f => some f
    -- what tests no field is the only member of a filter that is negated
    | none => if key = "$not" then (ofMember? symbol v).map .not else none
  | _ => none

/-- The filter that a wire form stands for. -/
def ofWhere? : Json → Option Filter
  | .obj [(.str key, v)] => ofMember? key v
  | _ => none

def ofWheres? : List Json → Option (List Filter)
  | [] => some []
  | v :: vs => do
    let f ← ofWhere? v
    let fs ← ofWheres? vs
    return f :: fs

end

/-! ## One filter for each wire form -/

mutual

/-- The filter, with `contains` in the place of `substringof`. -/
def normal : Filter → Filter
  | .compare field op value => .compare field op value
  | .logical op operands => .logical op (normals operands)
  | .not operand => .not (normal operand)
  | .text function field argument => .text function.normal field argument
  | .oneOf field values => .oneOf field values

def normals : List Filter → List Filter
  | [] => []
  | f :: fs => normal f :: normals fs

end

mutual

/-- Filters of one normal form are sent alike. -/
theorem toWhere_normal (f : Filter) : f.normal.toWhere = f.toWhere := by
  -- only the functions have two spellings of one symbol
  match f with
  | .compare .. => rfl
  | .logical op operands => rw [normal, toWhere, toWhere, toWhereList_normals operands]
  | .not operand => rw [normal, toWhere, toWhere, toWhere_normal operand]
  | .text function field argument =>
    rw [normal, toWhere, toWhere, TextFunction.symbol_normal]
  | .oneOf .. => rfl

/-- Lists of filters of one normal form are sent alike. -/
theorem toWhereList_normals (fs : List Filter) :
    toWhereList (normals fs) = toWhereList fs := by
  match fs with
  | [] => rfl
  | f :: fs =>
    rw [normals, toWhereList, toWhereList, toWhere_normal f, toWhereList_normals fs]

end

section tests

variable (field : String)

/-- A comparison is read from its test. -/
theorem test?_compare (op : Comparator) (value : Scalar) :
    test? field op.symbol value.toJson = some (.compare field op value) := by
  simp only [test?, Comparator.ofSymbol?_symbol, Scalar.scalar?_toJson, Option.map_some]

/-- A text function is read from its test. -/
theorem test?_text (function : TextFunction) (argument : String) :
    test? field function.symbol (.str argument) = some (.text function.normal field argument) := by
  simp only [test?, TextFunction.comparator_symbol, TextFunction.ofSymbol?_symbol]

/-- A list of values is read from its test. -/
theorem test?_oneOf (values : List Scalar) :
    test? field "$in" (.arr (values.map Scalar.toJson)) = some (.oneOf field values) := by
  -- the values are read one by one
  have hread : (values.map Scalar.toJson).mapM Json.scalar? = some values := by
    induction values with
    | nil => rfl
    | cons value values ih =>
      rw [List.map_cons, List.mapM_cons, Scalar.scalar?_toJson, ih]
      rfl
  -- the key is none of the others that are tried first
  have hcomparator : Comparator.ofSymbol? "$in" = none := by decide
  have hfunction : TextFunction.ofSymbol? "$in" = none := by decide
  simp only [test?, hcomparator, hfunction, if_pos, hread, Option.map_some]

/-- A symbol with an object behind it tests nothing. -/
theorem test?_obj (symbol : String) (members : Record) :
    test? field symbol (.obj members) = none := by
  unfold test?
  split
  · rfl
  · split <;> simp_all

/-- A connective is no symbol. -/
theorem test?_connective (op : Connective) (items : List Json) :
    test? field op.key (.arr items) = none := by
  have hcomparator : Comparator.ofSymbol? op.key = none := by cases op <;> decide
  have hfunction : TextFunction.ofSymbol? op.key = none := by cases op <;> decide
  have hin : op.key ≠ "$in" := by cases op <;> decide
  simp only [test?, hcomparator, hfunction, if_neg hin]

end tests

mutual

/-- A wire form has one member, from which the filter is read. As the member of a filter that is
negated it is not taken for a test, whatever the filter is. -/
theorem exists_member (f : Filter) : ∃ key v, f.toWhere = .obj [(.str key, v)] ∧
    (∀ field, test? field key v = none) ∧ ofMember? key v = some f.normal := by
  -- a filter is one member of an object, under the name of its property or of its connective
  match f with
  | .compare field op value =>
    refine ⟨field, _, rfl, fun _ => test?_obj _ _ _, ?_⟩
    rw [ofMember?, test?_compare]
    rfl
  | .logical op operands =>
    refine ⟨op.key, _, rfl, fun _ => test?_connective _ _ _, ?_⟩
    rw [ofMember?, Connective.ofKey?_key, ofWheres?_toWhereList operands]
    rfl
  | .not operand =>
    obtain ⟨key, v, hwhere, htest, hmember⟩ := exists_member operand
    refine ⟨"$not", _, rfl, fun _ => ?_, ?_⟩
    · rw [hwhere]
      exact test?_obj _ _ _
    · rw [hwhere, ofMember?, htest]
      dsimp only
      rw [if_pos rfl, hmember]
      rfl
  | .text function field argument =>
    refine ⟨field, _, rfl, fun _ => test?_obj _ _ _, ?_⟩
    rw [ofMember?, test?_text]
    rfl
  | .oneOf field values =>
    refine ⟨field, _, rfl, fun _ => test?_obj _ _ _, ?_⟩
    rw [ofMember?, test?_oneOf]
    rfl

/-- A list of filters is read back in normal form. -/
theorem ofWheres?_toWhereList (fs : List Filter) :
    ofWheres? (toWhereList fs) = some (normals fs) := by
  match fs with
  | [] => rfl
  -- the first is read as a member, the others by the recursion
  | f :: fs =>
    obtain ⟨key, v, hwhere, -, hmember⟩ := exists_member f
    rw [toWhereList, ofWheres?, hwhere, ofWhere?, hmember, ofWheres?_toWhereList fs]
    rfl

end

/-- A wire form is read as the filter that it comes from. -/
theorem ofWhere?_toWhere (f : Filter) : ofWhere? f.toWhere = some f.normal := by
  obtain ⟨key, v, hwhere, -, hmember⟩ := exists_member f
  rw [hwhere, ofWhere?, hmember]

/-- Two filters have the same wire form when they are the same up to `contains` and
`substringof`. -/
theorem toWhere_eq_iff {f g : Filter} : f.toWhere = g.toWhere ↔ f.normal = g.normal := by
  constructor
  -- what is sent can be read back, up to the normal form
  · intro h
    have hread := congrArg ofWhere? h
    rw [ofWhere?_toWhere, ofWhere?_toWhere] at hread
    exact Option.some.inj hread
  · intro h
    rw [← toWhere_normal f, h, toWhere_normal g]

/-! ## The records that are kept -/

/-- A text function holds for the same values in normal form. -/
theorem textHolds_normal (function : TextFunction) (v : Json) (argument : String) :
    textHolds function.normal v argument = textHolds function v argument := by
  cases function <;> rfl

mutual

/-- It makes no difference to a record whether `contains` or `substringof` looks into it. -/
theorem holds_normal (f : Filter) (r : Record) : f.normal.holds r = f.holds r := by
  -- over the tree, the lists of operands by their own lemmas
  match f with
  | .compare .. => rfl
  | .logical .and operands => rw [normal, holds, holds, allHold_normals operands]
  | .logical .or operands => rw [normal, holds, holds, anyHolds_normals operands]
  | .not operand => rw [normal, holds, holds, holds_normal operand]
  | .text function field argument => rw [normal, holds, holds, textHolds_normal]
  | .oneOf .. => rfl

/-- All filters of a list hold when their normal forms do. -/
theorem allHold_normals (fs : List Filter) (r : Record) :
    allHold (normals fs) r = allHold fs r := by
  match fs with
  | [] => rfl
  | f :: fs => rw [normals, allHold, allHold, holds_normal f, allHold_normals fs]

/-- Some filter of a list holds when its normal form does. -/
theorem anyHolds_normals (fs : List Filter) (r : Record) :
    anyHolds (normals fs) r = anyHolds fs r := by
  match fs with
  | [] => rfl
  | f :: fs => rw [normals, anyHolds, anyHolds, holds_normal f, anyHolds_normals fs]

end

end Filter

end ODataService
