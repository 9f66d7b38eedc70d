/-!
# Binary floating point numbers

The numbers with a fraction or exponent that JSON texts and filters hold: binary64 values. They
are kept as exact data (sign, significand and exponent), so that comparing them with integers of
any size, and rounding a quotient to one of them, is integer arithmetic.
-/

namespace ODataService

/-- A binary64 value. A finite one is `significand * 2 ^ exponent` with its sign; values built by
`Binary64.ofRatio` have a significand below `2 ^ 53` and the least exponent that allows. -/
inductive Binary64 where
  | nan
  | infinity (negative : Bool)
  | finite (negative : Bool) (significand : Nat) (exponent : Int)
deriving DecidableEq, Repr, Inhabited

namespace Binary64

/-- The least exponent of a finite value. -/
def minExponent : Int := -1074

/-- The greatest exponent of a finite value. -/
def maxExponent : Int := 971

/-- The quotient rounded to the nearest natural number; a tie goes to the even neighbour. -/
def roundHalfEven (num den : Nat) : Nat :=
  let q := num / den
  let r := num % den
  if 2 * r < den then q else if den < 2 * r then q + 1 else q + q % 2

/-- `num / den` scaled by `2 ^ (-exponent)`, rounded to the nearest integer. -/
def scaledSignificand (num den : Nat) (exponent : Int) : Nat :=
  if exponent < 0 then roundHalfEven (num * Nat.pow 2 (-exponent).toNat) den
  else roundHalfEven num (den * Nat.pow 2 exponent.toNat)

/-- The exponent `e` with `2 ^ e ≤ num / den < 2 ^ (e + 1)`, for a positive quotient. -/
def binaryOrder (num den : Nat) : Int :=
  let e : Int := (Nat.log2 num : Int) - (Nat.log2 den : Int)
  let reached :=
    if e < 0 then den ≤ num * Nat.pow 2 (-e).toNat else den * Nat.pow 2 e.toNat ≤ num
  if reached then e else e - 1

/-- The value nearest to `num / den`, a tie going to the even significand; beyond the range it is
infinite. -/
def ofRatio (negative : Bool) (num den : Nat) : Binary64 :=
  if num = 0 ∨ den = 0 then .finite negative 0 minExponent
  else
    let exponent := max (binaryOrder num den - 52) minExponent
    let significand := scaledSignificand num den exponent
    let (significand, exponent) :=
      if significand = Nat.pow 2 53 then (Nat.pow 2 52, exponent + 1) else (significand, exponent)
    if maxExponent < exponent then .infinity negative
    else .finite negative significand exponent

/-- The value nearest to `digits * 10 ^ power`. -/
def ofDecimal (negative : Bool) (digits : Nat) (power : Int) : Binary64 :=
  if digits = 0 then .finite negative 0 minExponent
  -- far outside the range the size of the power alone decides
  else if 400 < power then .infinity negative
  else if power + (Nat.log2 digits : Int) + 1 < -1200 then .finite negative 0 minExponent
  else if power < 0 then ofRatio negative digits (Nat.pow 10 (-power).toNat)
  else ofRatio negative (digits * Nat.pow 10 power.toNat) 1

/-- The value nearest to an integer. -/
def ofInt (n : Int) : Binary64 := ofRatio (n < 0) n.natAbs 1

/-- Zero of either sign. -/
def isZero : Binary64 → Bool
  | .finite _ 0 _ => true
  | _ => false

/-- A finite value times `2 ^ 1074`, which is an integer. -/
def scaled (negative : Bool) (significand : Nat) (exponent : Int) : Int :=
  let n : Int := significand * Nat.pow 2 (exponent + 1074).toNat
  if negative then -n else n

/-- The integer part of a finite value. -/
def truncate (negative : Bool) (significand : Nat) (exponent : Int) : Int :=
  let n : Int :=
    if exponent < 0 then significand / Nat.pow 2 (-exponent).toNat
    else significand * Nat.pow 2 exponent.toNat
  if negative then -n else n

/-- How many natural numbers lie strictly below a finite value. -/
def naturalsBelow (negative : Bool) (significand : Nat) (exponent : Int) : Nat :=
  if negative then 0
  else if exponent < 0 then (significand + Nat.pow 2 (-exponent).toNat - 1) / Nat.pow 2 (-exponent).toNat
  else significand * Nat.pow 2 exponent.toNat

/-- The product with a natural number, rounded once. -/
def mulNat (x : Binary64) (k : Nat) : Binary64 :=
  match x with
  | .finite s m e =>
    if e < 0 then ofRatio s (m * k) (Nat.pow 2 (-e).toNat)
    else ofRatio s (m * k * Nat.pow 2 e.toNat) 1
  | other => other

/-- A finite value rounded to an integer, a tie going to the even neighbour. -/
def roundToInt (negative : Bool) (significand : Nat) (exponent : Int) : Int :=
  let n : Int := scaledSignificand significand 1 (-exponent)
  if negative then -n else n

end Binary64

/-- A number on the extended line, on which integers and binary64 values are compared. Finite
points are multiples of `2 ^ -1074` and given by their multiple. -/
inductive Magnitude where
  | belowAll
  | at (scaled : Int)
  | aboveAll
deriving DecidableEq, Repr

namespace Magnitude

/-- The point of an integer. -/
def ofInt (n : Int) : Magnitude := .at (n * Nat.pow 2 1074)

/-- The point of a binary64 value; NaN has none. -/
def ofBinary64? : Binary64 → Option Magnitude
  | .nan => none
  | .infinity true => some .belowAll
  | .infinity false => some .aboveAll
  | .finite s m e => some (.at (Binary64.scaled s m e))

/-- Whether one point lies strictly below another. -/
def less : Magnitude → Magnitude → Bool
  | .belowAll, .belowAll => false
  | .belowAll, _ => true
  | _, .belowAll => false
  | .aboveAll, _ => false
  | _, .aboveAll => true
  | .at a, .at b => a < b

end Magnitude

end ODataService
