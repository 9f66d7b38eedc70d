import ODataService.Filter.Parser
import ODataService.Query.Options

/-!
# From options to a query

Reads the texts of the options that a query consists of. A blank search searches for nothing, and
where searching is switched off the option is ignored.
-/

namespace ODataService.Query

/-- The value of an option; an empty one counts as missing. -/
def nonEmpty? (raw : Option String) : Option String := raw.filter (· != "")

/-- The term that a `$search` option looks for. -/
def searchTerm (enabled : Bool) (raw : Option String) : Option String :=
  if enabled then nonEmpty? (raw.map Text.strip) else none

/-- Reads an option when it is given. -/
def readOption {α : Type} (missing : α) (read : String → Except Rejection α) :
    Option String → Except Rejection α
  | none => .ok missing
  | some raw => read raw

def ofOptions (searchEnabled : Bool) (o : SystemOptions) : Except Rejection Query := do
  let filter ← readOption none Filter.parse (nonEmpty? o.filter)
  let orderBy ← readOption [] parseOrderBy (nonEmpty? o.orderby)
  let fields ← readOption none parseSelect o.select
  return ⟨filter, orderBy, o.top, o.skip, fields, searchTerm searchEnabled o.search⟩

/-- The query that the parameters of a request ask for. -/
def ofParams (searchEnabled : Bool) (params : Assoc String) : Except Rejection Query := do
  let o ← SystemOptions.parse params
  ofOptions searchEnabled o

end ODataService.Query
