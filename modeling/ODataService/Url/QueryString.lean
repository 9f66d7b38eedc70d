import ODataService.Assoc
import ODataService.Text.Split
import ODataService.Url.Percent

/-!
# Query strings

A query string lists `name=value` pairs between ampersands. A plus sign stands for a blank, other
characters may be percent-encoded. A name without `=` has the empty value, and of pairs with the
same name the last value counts.
-/

namespace ODataService.Url

/-- Decodes a name or value. -/
def formText (cs : List Char) : String :=
  String.ofList (unescape (cs.map fun c => if c = '+' then ' ' else c))

/-- Decodes one pair. -/
def formPair (cs : List Char) : String × String :=
  let (name, value) := Text.cut '=' cs
  (formText name, formText (value.getD []))

/-- The pairs of a query string; those without a name are left out. -/
def queryPairs (text : String) : List (String × String) :=
  let pieces := Text.splitOn '&' (text.toList.dropWhile (· == '?'))
  ((pieces.filter (! ·.isEmpty)).map formPair).filter (·.1 != "")

def parseQuery (text : String) : Assoc String := Assoc.ofPairs (queryPairs text)

end ODataService.Url
