import ODataService.Number.Binary64
import ODataService.Text.Blank
import ODataService.Text.Digit
import ODataService.Text.Quoted
import ODataService.Text.Case

/-!
# Reading numbers from settings

Numbers in settings are read leniently: blanks around them are ignored, digits may be of any
script and single underscores may stand between digits.
-/

namespace ODataService.Number

/-- Why a text is no number. -/
inductive Fault where
  /-- The text is no integer. -/
  | notAnInteger (text : String)
  /-- The integer has more digits than are read. -/
  | tooManyDigits (count : Nat)
  /-- The text is no number. -/
  | notANumber (text : String)
deriving DecidableEq, Repr

/-- The most digits of an integer that are read from a setting. -/
def maxDigits : Nat := 4300

/-- The most characters that a message shows of a text that is no integer, its quotes included. -/
def shownLength : Nat := 200

/-- A text in quotes as far as a message shows it. -/
def shown (text : String) : String := String.ofList ((Text.quoted text).toList.take shownLength)

/-- The wording of a fault. -/
def Fault.message : Fault → String
  | .notAnInteger text => s!"invalid literal for int() with base 10: {shown text}"
  | .tooManyDigits count =>
    s!"Exceeds the limit ({maxDigits} digits) for integer string conversion: value has {count} " ++
    "digits; use sys.set_int_max_str_digits() to increase the limit"
  | .notANumber text => s!"could not convert string to float: {Text.quoted text}"

/-- Reads digits with single underscores between them; gives the digit values and the rest.
`afterDigit` says whether the last character was a digit, so that an underscore may follow. -/
def digitRun : List Char → Bool → List Nat × List Char
  | [], _ => ([], [])
  | c :: cs, afterDigit =>
    match Text.digitValue? c with
    | some d => let (ds, rest) := digitRun cs true; (d :: ds, rest)
    | none =>
      if c = '_' && afterDigit then
        match cs with
        | c' :: _ =>
          if Text.isDecimal c' then digitRun cs false else ([], c :: cs)
        | [] => ([], [c])
      else ([], c :: cs)

/-- The blanks that may stand around a number: white space, but no information separator. -/
def isPadding (c : Char) : Bool := Text.isBlank c && !(0x1C ≤ c.toNat && c.toNat ≤ 0x1F)

/-- A text without the blanks around the number in it. -/
def unpadded (text : String) : List Char :=
  ((text.toList.dropWhile isPadding).reverse.dropWhile isPadding).reverse

/-- The number with the given digits. -/
def ofDigits (ds : List Nat) : Nat := ds.foldl (fun n d => n * 10 + d) 0

/-- Splits off a sign; true means negative. -/
def sign : List Char → Bool × List Char
  | '-' :: cs => (true, cs)
  | '+' :: cs => (false, cs)
  | cs => (false, cs)

/-- Reads an integer setting. Too many digits are found before what follows them is looked at,
unless that is an underscore. -/
def readInt (text : String) : Except Fault Int :=
  let (negative, cs) := sign (unpadded text)
  let (ds, rest) := digitRun cs false
  let n : Int := ofDigits ds
  if ds.isEmpty || rest.head? = some '_' then .error (.notAnInteger text)
  else if maxDigits < ds.length then .error (.tooManyDigits ds.length)
  else if !rest.isEmpty then .error (.notAnInteger text)
  else .ok (if negative then -n else n)

/-- The digits of a fraction behind a point, if one follows. -/
def fraction : List Char → Option (List Nat) × List Char
  | '.' :: cs => let (ds, rest) := digitRun cs false; (some ds, rest)
  | cs => (none, cs)

/-- The exponent behind `e`, if a whole one follows. -/
def exponent? : List Char → Option Int
  | [] => some 0
  | c :: cs =>
    if c = 'e' || c = 'E' then
      let (negative, cs) := sign cs
      match digitRun cs false with
      | (d :: ds, []) =>
        let n : Int := ofDigits (d :: ds)
        some (if negative then -n else n)
      | _ => none
    else none

/-- The names of the values without digits. -/
def named? (negative : Bool) (cs : List Char) : Option Binary64 :=
  let name := String.ofList (cs.map Char.toLower)
  if name = "inf" || name = "infinity" then some (.infinity negative)
  else if name = "nan" then some .nan
  else none

/-- Reads a setting that is a number with a fraction or exponent. -/
def readReal (text : String) : Except Fault Binary64 :=
  let (negative, cs) := sign (unpadded text)
  match named? negative cs with
  | some x => .ok x
  | none =>
    let (whole, cs) := digitRun cs false
    let (part, cs) := fraction cs
    match exponent? cs with
    | some e =>
      let tail := part.getD []
      if whole.isEmpty && tail.isEmpty then .error (.notANumber text)
      else .ok (Binary64.ofDecimal negative (ofDigits (whole ++ tail)) (e - tail.length))
    | none => .error (.notANumber text)

end ODataService.Number
