/-!
# Texts of bytes

Headers travel as bytes that are read and written as characters one by one, the first 256 characters
standing for the bytes. A header that was sent as UTF-8 is read as a different text if it has a
character beyond ASCII.
-/

namespace ODataService.Text.Latin1

/-- The bytes of a text in UTF-8, each as the character with its number. -/
def ofUtf8 (s : String) : String :=
  String.ofList (s.toUTF8.toList.map fun b => Char.ofNat b.toNat)

/-- The bytes that the characters of a text stand for. -/
def bytes (s : String) : List UInt8 := s.toList.map fun c => UInt8.ofNat c.toNat

/-- Whether a character stands for a byte. -/
def isByte (c : Char) : Bool := c.toNat < 0x100

/-- The first characters in a row that stand for no byte, and the position of the first of them. -/
def firstBeyond? (s : String) : Option (Nat × List Char) :=
  let before := s.toList.takeWhile isByte
  match (s.toList.drop before.length).takeWhile (!isByte ·) with
  | [] => none
  | cs => some (before.length, cs)

end ODataService.Text.Latin1
