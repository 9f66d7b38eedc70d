/-!
# Blank characters

The characters that count as white space wherever the service trims a text, splits it into words
or skips between tokens. The zero-width space is not one of them, the separators U+001C to U+001F
are.
-/

namespace ODataService.Text

/-- White space of any script, together with the four information separators. -/
def isBlank (c : Char) : Bool :=
  let n := c.toNat
  (0x09 ≤ n && n ≤ 0x0D) || (0x1C ≤ n && n ≤ 0x20) || n == 0x85 || n == 0xA0 || n == 0x1680 ||
  (0x2000 ≤ n && n ≤ 0x200A) || n == 0x2028 || n == 0x2029 || n == 0x202F || n == 0x205F ||
  n == 0x3000

/-- Drops the blanks in front. -/
def trimLeft (cs : List Char) : List Char := cs.dropWhile isBlank

/-- Drops the blanks behind. -/
def trimRight (cs : List Char) : List Char := (cs.reverse.dropWhile isBlank).reverse

/-- Drops the blanks on both sides. -/
def trim (cs : List Char) : List Char := trimRight (trimLeft cs)

/-- The text without the blanks on either side. -/
def strip (s : String) : String := String.ofList (trim s.toList)

/-- Whether a text consists of blanks only. -/
def isBlankText (s : String) : Bool := s.toList.all isBlank

/-- Puts a character in front of the first piece. -/
def consHead (c : Char) : List (List Char) → List (List Char)
  | [] => [[c]]
  | p :: ps => (c :: p) :: ps

/-- The maximal runs of characters that are not blank, with empty runs between adjacent blanks. -/
def blankFields : List Char → List (List Char)
  | [] => [[]]
  | c :: cs => if isBlank c then [] :: blankFields cs else consHead c (blankFields cs)

/-- The words of a text: the pieces between blanks. -/
def words (s : String) : List String :=
  ((blankFields s.toList).filter (! ·.isEmpty)).map String.ofList

end ODataService.Text
