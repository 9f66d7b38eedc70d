import ODataService.Error
import ODataService.Query.Basic
import ODataService.Text.Case
import ODataService.Text.Quoted
import ODataService.Text.Split

/-!
# The `$orderby` option

A comma-separated list of properties, each with `asc` or `desc` behind it in any case, or with
nothing, which means `asc`. Blank entries are left out.
-/

namespace ODataService.Query

def isDescending? (direction : String) : Option Bool :=
  match Text.lower direction with
  | "asc" => some false
  | "desc" => some true
  | _ => none

/-- The rejection of an entry that is not a property with a direction. -/
def orderByRejection (entry : String) : Rejection :=
  ⟨.invalidOrderBy,
    s!"Invalid $orderby segment: {Text.quoted entry}. Expected '<property> [asc|desc]'.",
    some "$orderby", none⟩

/-- Reads one entry. -/
def parseSortKey (entry : String) : Except Rejection SortKey :=
  match Text.words entry with
  | [field] => .ok ⟨field, false⟩
  | [field, direction] =>
    match isDescending? direction with
    | some descending => .ok ⟨field, descending⟩
    | none => .error (orderByRejection entry)
  | _ => .error (orderByRejection entry)

/-- Reads a `$orderby` option. -/
def parseOrderBy (raw : String) : Except Rejection (List SortKey) :=
  (Text.commaList raw).mapM parseSortKey

end ODataService.Query
