import ODataService.Number.Binary64

/-!
# Values without parts

The values that JSON texts are made of in the end: null, booleans, numbers and texts. Integers keep
their exact value at any size and differ from numbers with a fraction.

They are compared by their meaning: integers and binary64 numbers exactly, booleans as the numbers 0
and 1. NaN equals no number, but as a key it is found again.
-/

namespace ODataService

/-- A JSON value without parts. -/
inductive Scalar where
  | null
  | bool (b : Bool)
  | int (n : Int)
  | real (x : Binary64)
  | str (s : String)
deriving DecidableEq, Inhabited, Repr

instance : Coe String Scalar := ⟨.str⟩

/-- What makes two scalars the same key. -/
inductive Identity where
  | null
  | number (x : Magnitude)
  | nan
  | text (s : String)
deriving DecidableEq, Repr

namespace Scalar

/-- The point on the number line of a number or boolean; NaN, null and texts have none. -/
def magnitude? : Scalar → Option Magnitude
  | .bool b => some (Magnitude.ofInt (if b then 1 else 0))
  | .int n => some (Magnitude.ofInt n)
  | .real x => Magnitude.ofBinary64? x
  | .null => none
  | .str _ => none

/-- What the scalar is as a key. -/
def identity : Scalar → Identity
  | .null => .null
  | .str s => .text s
  | k =>
    match k.magnitude? with
    | some x => .number x
    | none => .nan

/-- Whether `b` is found under the key `a`: equal values are, and so is NaN under itself. -/
def sameKey (a b : Scalar) : Bool := a.identity = b.identity

/-- Whether two scalars mean the same. -/
def equal (a b : Scalar) : Bool := a.sameKey b && a.identity != .nan

/-- Whether `a` lies strictly before `b`; values of different kinds are not ordered. -/
def less (a b : Scalar) : Bool :=
  match a, b with
  | .str s, .str t => s < t
  | a, b =>
    match a.magnitude?, b.magnitude? with
    | some x, some y => x.less y
    | _, _ => false

/-- Whether `a` lies before `b` or means the same, for values that are ordered at all. -/
def atMost (a b : Scalar) : Bool :=
  match a, b with
  | .null, _ => false
  | _, .null => false
  | a, b => less a b || equal a b

def isAmong (k : Scalar) (texts : List String) : Bool :=
  match k with
  | .str s => texts.contains s
  | _ => false

theorem sameKey_iff {a b : Scalar} : a.sameKey b = true ↔ a.identity = b.identity := by
  simp [sameKey]

theorem sameKey_comm (a b : Scalar) : a.sameKey b = b.sameKey a := by
  simp only [sameKey, eq_comm]

theorem sameKey_str_iff {s t : String} : sameKey s t = true ↔ s = t := by
  simp [sameKey, identity]

/-- Only a text is the same key as a text. -/
theorem sameKey_str_right_iff {k : Scalar} {s : String} :
    k.sameKey s = true ↔ k = .str s := by
  constructor
  · intro h
    rw [sameKey_iff] at h
    cases k with
    | str t => exact congrArg Scalar.str (Identity.text.inj h)
    | real x =>
      simp only [identity] at h
      split at h <;> simp at h
    | _ => simp [identity, magnitude?] at h
  · rintro rfl
    exact sameKey_str_iff.mpr rfl

end Scalar

end ODataService
