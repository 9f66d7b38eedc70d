/-!
# The rolling hash

The tag of a record that has neither a time stamp nor an identifier: its text hashed by
`h * 31 + c` in 32-bit two's complement, the absolute value written with 36 digits.
-/

namespace ODataService.EntityTag

/-- The hash of a text, as a word. -/
def rollingWord (text : String) : UInt32 :=
  text.toList.foldl (fun h c => h * 31 + UInt32.ofNat c.toNat) 0

def base36Digit (n : Nat) : Char :=
  if n < 10 then Char.ofNat (0x30 + n) else Char.ofNat (0x61 + (n - 10))

/-- The digits of a number in base 36, most significant first; zero has none. -/
def base36Digits (n : Nat) : List Char :=
  if n = 0 then []
  else base36Digits (n / 36) ++ [base36Digit (n % 36)]
termination_by n
decreasing_by omega

/-- A number in base 36. -/
def base36 (n : Nat) : String := if n = 0 then "0" else String.ofList (base36Digits n)

/-- The absolute value of a word in two's complement. -/
def magnitude (w : UInt32) : Nat := if w.toNat < 0x80000000 then w.toNat else 0x100000000 - w.toNat

def rollingHash (text : String) : String := base36 (magnitude (rollingWord text))

end ODataService.EntityTag
