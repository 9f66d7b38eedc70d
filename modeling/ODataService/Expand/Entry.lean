import ODataService.Assoc
import ODataService.Expand.Splitting

/-!
# Entries of an `$expand` text

An entry is a navigation property, optionally followed by options in parentheses:
`customer($select=name;$expand=company)`. Blank entries and options are left out; of options with
the same name the last one counts.
-/

namespace ODataService.Expand

/-- A navigation property to expand and the options for the related records. -/
structure Entry where
  property : String
  options : Assoc String := []
deriving DecidableEq, Repr

/-- What to expand in the related records in turn. -/
def Entry.nested? (e : Entry) : Option String :=
  (Assoc.get? e.options "$expand").filter (· != "")

/-- Reads one option. -/
def parseOption (property part : String) : Except Fault (String × String) :=
  match Text.cut '=' part.toList with
  | (name, some value) =>
    let name := Text.strip (String.ofList name)
    if supportedOptions.contains name then .ok (name, Text.strip (String.ofList value))
    else .error (.unsupportedOption part property)
  | (_, none) => .error (.unsupportedOption part property)

/-- The parts of a text, trimmed, without the blank ones. -/
def nonBlankParts (text : String) (separator : Char) : Except Fault (List String) :=
  (splitTopLevel text separator).map fun parts => (parts.map Text.strip).filter (· != "")

/-- Reads the options of an entry. -/
def parseOptions (raw property : String) : Except Fault (Assoc String) := do
  let parts ← nonBlankParts raw ';'
  let pairs ← parts.mapM (parseOption property)
  return Assoc.ofPairs pairs

/-- Reads a property with the options behind its opening parenthesis. -/
def parseWithOptions (entry : String) (before behind : List Char) : Except Fault Entry :=
  if behind.getLast? = some ')' then do
    let property := Text.strip (String.ofList before)
    let options ← parseOptions (String.ofList behind.dropLast) property
    if property = "" then throw (.missingProperty entry)
    return ⟨property, options⟩
  else .error (.trailingText entry)

/-- Reads one entry. -/
def parseEntry (entry : String) : Except Fault Entry :=
  match Text.cut '(' entry.toList with
  | (_, none) => .ok ⟨entry, []⟩
  | (before, some behind) => parseWithOptions entry before behind

/-- Reads an `$expand` text. -/
def parseEntries (raw : String) : Except Fault (List Entry) := do
  let parts ← nonBlankParts raw ','
  parts.mapM parseEntry

/-- Reads an `$expand` option. -/
def parse (raw : String) : Except Rejection (List Entry) :=
  (parseEntries raw).mapError Fault.rejection

end ODataService.Expand
