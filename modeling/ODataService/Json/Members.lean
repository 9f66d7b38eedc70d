import ODataService.Json.Coercion

/-!
# The members of values

A record need not be given as an object: a list of pairs will do, each of a key and a value. This
module says which members a value has, and which values are records at all.
-/

namespace ODataService.Json

/-- The value as a key; arrays and objects are none. -/
def asKey (v : Json) : Except ValueFault Scalar :=
  match v.scalar? with
  | some k => .ok k
  | none => .error (.unhashable v.kindName)

/-- An entry of a list as a key and a value; `index` is its position. -/
def asPair (index : Nat) (v : Json) : Except ValueFault (Scalar × Json) :=
  match asItems v with
  | .error _ => .error (.noSequence index)
  | .ok [k, w] => (asKey k).map fun k => (k, w)
  | .ok items => .error (.notAPair index items.length)

/-- The entries of a list as pairs; `index` is the position of the list's head. -/
def asPairsFrom (index : Nat) : List Json → Except ValueFault (Keyed Json)
  | [] => .ok []
  | v :: vs => do
    let p ← asPair index v
    let ps ← asPairsFrom (index + 1) vs
    return p :: ps

/-- The members of a value: those of an object, or the pairs that a list consists of. -/
def asMembers : Json → Except ValueFault (Keyed Json)
  | .obj r => .ok r
  | v => do
    let items ← asItems v
    asPairsFrom 0 items

def asRecord : Json → Except ValueFault Record
  | .obj r => .ok r
  | v => .error (.lacks v.kindName "get")

/-- Values as records. -/
def asRecords (vs : List Json) : Except ValueFault (List Record) := vs.mapM asRecord

/-- The record that the members of a value make; of members with the same key the last counts. -/
def asData : Json → Except ValueFault Record
  | .obj r => .ok r
  | v => v.asMembers.map Keyed.ofPairs

end ODataService.Json
