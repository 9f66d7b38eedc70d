import ODataService.Text.Quoted
import ODataService.Text.Utf8

/-!
# Percent-encoded text

An escape is a percent sign with two hexadecimal digits and stands for a byte. The bytes of
adjacent ASCII characters and escapes are read as UTF-8 together; a character beyond ASCII stands
for itself and ends the run, so that no escaped character reaches across it.
-/

namespace ODataService.Url

/-- The value of a hexadecimal digit. -/
def hexValue? (c : Char) : Option Nat :=
  if c.isDigit then some (c.toNat - 0x30)
  else if 'a' ≤ c ∧ c ≤ 'f' then some (c.toNat - 0x61 + 10)
  else if 'A' ≤ c ∧ c ≤ 'F' then some (c.toNat - 0x41 + 10)
  else none

/-- The byte of an escape with the given digits. -/
def escapedByte? (high low : Char) : Option UInt8 := do
  let h ← hexValue? high
  let l ← hexValue? low
  return UInt8.ofNat (h * 16 + l)

/-- The bytes that a run of ASCII characters denotes; a percent sign without two digits behind it
stands for itself. -/
def unescapeRun : List Char → List UInt8
  | '%' :: a :: b :: cs =>
    match escapedByte? a b with
    | some byte => byte :: unescapeRun cs
    | none => UInt8.ofNat 0x25 :: unescapeRun (a :: b :: cs)
  | c :: cs => UInt8.ofNat c.toNat :: unescapeRun cs
  | [] => []

/-- Decodes a text; `run` holds the ASCII characters just passed, last one first. -/
def unescapeFrom (run : List Char) : List Char → List Char
  | [] => Text.Utf8.decode (unescapeRun run.reverse)
  | c :: cs =>
    if c.toNat < 0x80 then unescapeFrom (c :: run) cs
    else Text.Utf8.decode (unescapeRun run.reverse) ++ c :: unescapeFrom [] cs

/-- The text that a percent-encoded one denotes. -/
def unescape (cs : List Char) : List Char := unescapeFrom [] cs

/-- The escape of a byte, with digits in upper case. -/
def escapeByte (b : UInt8) : List Char :=
  '%' :: (Text.hexDigits 2 b.toNat).map Char.toUpper

/-- Whether a character stands for itself wherever it is: a letter, a digit or one of four marks. -/
def isUnreserved (c : Char) : Bool :=
  c.isAlphanum || c == '_' || c == '.' || c == '-' || c == '~'

/-- A text in which all characters are escaped that are neither unreserved nor kept. -/
def escape (kept : List Char) (cs : List Char) : List Char :=
  cs.flatMap fun c =>
    if isUnreserved c || kept.contains c then [c]
    else (String.ofList [c]).toUTF8.toList.flatMap escapeByte

end ODataService.Url
