import ODataService.Number.Binary64

/-!
# Shortest decimal text of a binary number

A binary64 value is written with the fewest decimal digits that read back as the same value, and
among those with the digits nearest to it. `Decimal.shortest` finds the digits, `NumberFormat`
says how they are laid out.

The reals that round to a value form an interval around it, which includes its ends exactly when
the significand is even. For one digit, two digits, and so on up to seventeen, the two neighbours
of the value on that decimal grid are tried.
-/

namespace ODataService

/-- A positive decimal number: `digits * 10 ^ power`. -/
structure Decimal where
  digits : Nat
  power : Int
deriving DecidableEq, Repr

namespace Decimal

/-- Whether `a * 10 ^ p * 2 ^ -q` with exponents of either sign is at most or below `b`: compares
`a * 10 ^ p` with `b * 2 ^ q`. -/
def compareScaled (a : Nat) (p : Int) (b : Nat) (q : Int) : Ordering :=
  let left := a * Nat.pow 10 p.toNat * Nat.pow 2 (-q).toNat
  let right := b * Nat.pow 2 q.toNat * Nat.pow 10 (-p).toNat
  compare left right

/-- Whether a decimal rounds to `significand * 2 ^ exponent`. Quarters of the last place are used,
because the interval below a power of two is half as long as the one above. -/
def roundsTo (d : Decimal) (significand : Nat) (exponent : Int) : Bool :=
  let below :=
    if significand = Nat.pow 2 52 && Binary64.minExponent < exponent then 4 * significand - 1
    else 4 * significand - 2
  let above := 4 * significand + 2
  let closed := significand % 2 == 0
  let q := exponent - 2
  let low := compareScaled d.digits d.power below q
  let high := compareScaled d.digits d.power above q
  (low == .gt || (closed && low == .eq)) && (high == .lt || (closed && high == .eq))

/-- `significand * 2 ^ exponent / 10 ^ power`, rounded down, with its remainder and divisor. -/
def gridFloor (significand : Nat) (exponent power : Int) : Nat × Nat × Nat :=
  let num := significand * Nat.pow 2 exponent.toNat * Nat.pow 10 (-power).toNat
  let den := Nat.pow 2 (-exponent).toNat * Nat.pow 10 power.toNat
  (num / den, num % den, den)

/-- The exponent `k` with `10 ^ (k - 1) ≤ significand * 2 ^ exponent < 10 ^ k`, searched upwards
from an estimate that is never too high. -/
def decimalOrder (significand : Nat) (exponent : Int) : Nat → Int → Int
  | 0, k => k
  | fuel + 1, k =>
    if compareScaled 1 k significand exponent == .gt then k
    else decimalOrder significand exponent fuel (k + 1)

/-- An estimate of the decimal order from the binary one, low by a few at most. -/
def orderEstimate (significand : Nat) (exponent : Int) : Int :=
  ((Nat.log2 significand : Int) + exponent) * 30103 / 100000 - 2

/-- The better of the two neighbours on the grid of `10 ^ power` among those that round to the
value: the nearer one, of two equally near ones the even one. -/
def onGrid? (significand : Nat) (exponent power : Int) : Option Decimal :=
  let (q, r, den) := gridFloor significand exponent power
  let low : Decimal := ⟨q, power⟩
  let high : Decimal := ⟨q + 1, power⟩
  let lowOk := q != 0 && low.roundsTo significand exponent
  let highOk := high.roundsTo significand exponent
  if lowOk && highOk then
    if 2 * r < den then some low
    else if den < 2 * r then some high
    else if q % 2 == 0 then some low else some high
  else if lowOk then some low
  else if highOk then some high
  else none

/-- Tries grids of more and more digits. -/
def searchGrids (significand : Nat) (exponent order : Int) : Nat → Nat → Decimal
  | 0, count => ⟨(gridFloor significand exponent (order - count)).1, order - count⟩
  | fuel + 1, count =>
    match onGrid? significand exponent (order - count) with
    | some d => d
    | none => searchGrids significand exponent order fuel (count + 1)

/-- The shortest decimal that rounds to a positive value. -/
def shortest (significand : Nat) (exponent : Int) : Decimal :=
  let order := decimalOrder significand exponent 8 (orderEstimate significand exponent)
  searchGrids significand exponent order 17 1

/-- Moves zeros at the end of the digits into the power. -/
def dropZeros : Nat → Decimal → Decimal
  | 0, d => d
  | fuel + 1, d =>
    if d.digits ≠ 0 ∧ d.digits % 10 = 0 then dropZeros fuel ⟨d.digits / 10, d.power + 1⟩ else d

end Decimal

/-- How the digits of a number are laid out. -/
structure NumberFormat where
  /-- Least decimal exponent of the first digit that is written without an exponent. -/
  plainFrom : Int
  /-- Decimal exponent of the first digit from which an exponent is written. -/
  plainBelow : Int
  /-- Whether a number without a fraction is followed by `.0` when no exponent is written. -/
  keepPoint : Bool
  /-- Least number of digits of an exponent. -/
  exponentWidth : Nat
  notANumber : String
  infinite : String

namespace NumberFormat

/-- Numbers as texts: a fraction is always shown, exponents have a sign and at least two digits. -/
def plain : NumberFormat where
  plainFrom := -4
  plainBelow := 16
  keepPoint := true
  exponentWidth := 2
  notANumber := "nan"
  infinite := "inf"

/-- Numbers in JSON texts; only the spelling of the values without digits differs. -/
def json : NumberFormat := { plain with notANumber := "NaN", infinite := "Infinity" }

/-- A natural number with at least `width` digits. -/
def padded (width n : Nat) : String :=
  let digits := toString n
  String.ofList (List.replicate (width - digits.length) '0') ++ digits

/-- Digits with the point after the first one, and an exponent. -/
def scientific (f : NumberFormat) (digits : List Char) (first : Int) : String :=
  let mantissa :=
    match digits with
    | [] => []
    | [d] => [d]
    | d :: ds => d :: '.' :: ds
  let sign := if first < 0 then "-" else "+"
  String.ofList mantissa ++ "e" ++ sign ++ padded f.exponentWidth first.natAbs

/-- Digits without an exponent; `first` is the decimal exponent of the first digit. -/
def positional (f : NumberFormat) (digits : List Char) (first : Int) : String :=
  if first < 0 then
    "0." ++ String.ofList (List.replicate (-first - 1).toNat '0' ++ digits)
  else
    let count := first.toNat + 1
    if digits.length ≤ count then
      String.ofList (digits ++ List.replicate (count - digits.length) '0') ++
        (if f.keepPoint then ".0" else "")
    else String.ofList (digits.take count ++ '.' :: digits.drop count)

/-- Writes a value. -/
def write (f : NumberFormat) : Binary64 → String
  | .nan => f.notANumber
  | .infinity negative => (if negative then "-" else "") ++ f.infinite
  | .finite negative significand exponent =>
    let sign := if negative then "-" else ""
    if significand = 0 then sign ++ f.positional ['0'] 0
    else
      let d := (Decimal.shortest significand exponent).dropZeros 400
      let digits := (toString d.digits).toList
      let first := d.power + digits.length - 1
      sign ++ if f.plainFrom ≤ first ∧ first < f.plainBelow then f.positional digits first
        else f.scientific digits first

end NumberFormat

end ODataService
