import ODataService.Text.Blank
import ODataService.Text.Split

/-!
# Page sizes

The numbers of `$top` and `$skip`. A number is a minus sign or none and digits that start with no
zero, or a zero alone. What is none is tidied and read once more: blanks around it, a plus sign,
leading zeros, single underscores between digits and a fraction of zeros are dropped. Digits are
ASCII.

A number with too many digits is refused for its length only if it is one without being tidied.
-/

namespace ODataService.Query

/-- Why a text is no page size. -/
inductive PageSizeFault where
  | notAnInteger
  | tooLong
  | negative
deriving DecidableEq, Repr

/-- The name of the fault in error details. -/
def PageSizeFault.code : PageSizeFault → String
  | .notAnInteger => "int_parsing"
  | .tooLong => "int_parsing_size"
  | .negative => "greater_than_equal"

namespace PageSize

/-- The most digits that are read as a number. -/
def maxDigits : Nat := 4300

/-- The blanks that may surround a page size: all but the information separators. -/
def isSpace (c : Char) : Bool := Text.isBlank c && !(0x1C ≤ c.toNat && c.toNat ≤ 0x1F)

/-- Drops the blanks on both sides. -/
def trim (cs : List Char) : List Char :=
  ((cs.dropWhile isSpace).reverse.dropWhile isSpace).reverse

/-- Splits a minus sign off. -/
def splitMinus : List Char → Bool × List Char
  | '-' :: cs => (true, cs)
  | cs => (false, cs)

/-- Splits a sign off; true means negative. A plus sign in front of a minus sign is none. -/
def splitSign : List Char → Bool × List Char
  | '+' :: '-' :: cs => (false, '+' :: '-' :: cs)
  | '+' :: cs => (false, cs)
  | cs => splitMinus cs

/-- Drops zeros and underscores behind a leading zero, but keeps the last of them in front of a
point or the end; `last` is the character just passed. A minus sign may stand behind them. -/
def dropZeros (last : Char) : List Char → Option (List Char)
  | [] => some [last]
  | c :: cs =>
    if c = '0' || c = '_' then dropZeros c cs
    else if c.isDigit || c = '-' then some (c :: cs)
    else if c = '.' then some (last :: c :: cs)
    else none

/-- Drops leading zeros; a text that starts with no digit is refused. -/
def dropLeadingZeros : List Char → Option (List Char)
  | [] => none
  | c :: cs => if c = '0' then dropZeros c cs else if c.isDigit then some (c :: cs) else none

def dropZeroFraction (cs : List Char) : List Char :=
  match Text.cut '.' cs with
  | (whole, some (z :: zs)) => if (z :: zs).all (· == '0') then whole else cs
  | _ => cs

/-- Whether underscores stand alone and between other characters only. -/
def separatesDigits (cs : List Char) : Bool :=
  cs.head? != some '_' && cs.getLast? != some '_' && !Text.occursIn ['_', '_'] cs

/-- Drops underscores between digits. -/
def dropUnderscores (cs : List Char) : List Char :=
  if separatesDigits cs then cs.filter (· != '_') else cs

def digitsValue (cs : List Char) : Nat := cs.foldl (fun n c => n * 10 + (c.toNat - 0x30)) 0

/-- The digits that a number starts with: a zero alone, or digits that start with no zero. -/
def leadingDigits (cs : List Char) : List Char :=
  match cs with
  | '0' :: _ => ['0']
  | cs => cs.takeWhile Char.isDigit

/-- Reads a number that nothing stands around. -/
def readNumber (cs : List Char) : Except PageSizeFault Int :=
  let (negative, cs) := splitMinus cs
  let digits := leadingDigits cs
  let n : Int := digitsValue digits
  if maxDigits < digits.length then .error .tooLong
  else if digits.isEmpty || digits.length < cs.length then .error .notAnInteger
  else .ok (if negative then -n else n)

/-- A text without what may stand in and around a number. -/
def tidy (cs : List Char) : Option (List Char) :=
  let (negative, cs) := splitSign (trim cs)
  (dropLeadingZeros cs).map fun cs =>
    let cs := dropUnderscores (dropZeroFraction cs)
    if negative then '-' :: cs else cs

/-- Reads a text as a number once it is tidied. -/
def readTidied (cs : List Char) : Except PageSizeFault Int :=
  match tidy cs with
  | none => .error .notAnInteger
  | some cs => (readNumber cs).mapError fun _ => .notAnInteger

/-- Reads a text as a number, tidied only if need be. -/
def readInteger (cs : List Char) : Except PageSizeFault Int :=
  match readNumber cs with
  | .error .notAnInteger => readTidied cs
  | result => result

def parse (raw : String) : Except PageSizeFault Nat := do
  let n ← readInteger raw.toList
  if n < 0 then throw .negative else return n.toNat

end PageSize

end ODataService.Query
