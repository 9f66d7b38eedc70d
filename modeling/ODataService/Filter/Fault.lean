import ODataService.Error
import ODataService.Text.Quoted

/-!
# What can be wrong with a filter text

The causes for which a `$filter` is refused, and their wording.
-/

namespace ODataService

namespace Filter

/-- Why a filter text is refused. Positions count characters of the trimmed text. -/
inductive Fault where
  /-- A closing parenthesis without an opening one. -/
  | unmatchedClosing (position : Nat)
  /-- Parentheses that are never closed, and the outermost of them. -/
  | unclosedOpening (count outermost : Nat)
  /-- A quoted string that does not end. -/
  | unclosedQuote (position : Nat)
  /-- A character that starts no token. -/
  | unexpectedCharacter (c : Char) (position : Nat)
  /-- Something else stands where a certain token is needed. -/
  | expected (what : String) (position : Nat) (found : String)
  /-- A token that nothing can start with, or one behind a whole filter. -/
  | unexpectedToken (found : String) (position : Nat)
  /-- A call of a function that is not supported. -/
  | unknownFunction (name : String) (position : Nat)
  /-- A property that no comparison operator follows. -/
  | missingOperator (field : String) (position : Nat)
deriving DecidableEq, Repr

/-- The comparison and logical operators as messages list them. -/
def supportedOperators : String := "eq, ne, gt, ge, lt, le, and, or, not"

/-- The functions as messages list them. -/
def supportedFunctions : String := "contains, startswith, endswith, substringof"

namespace Fault

/-- The wording for a text that is no supported filter. -/
def unsupported (text detail : String) : String :=
  s!"Unsupported $filter expression: \"{text}\" ({detail}). " ++
  s!"Supported operators: {supportedOperators}. Supported functions: {supportedFunctions}."

/-- The wording of a fault found in `text`. -/
def message (text : String) : Fault → String
  | unmatchedClosing position =>
    "Invalid $filter expression: Mismatched parentheses. " ++
    s!"Found closing ')' without matching opening '(' at position {position}."
  | unclosedOpening count outermost =>
    "Invalid $filter expression: Mismatched parentheses. " ++
    s!"{count} unclosed opening parenthesis(es), outermost at position {outermost}."
  | unclosedQuote position =>
    s!"Invalid $filter expression: Unclosed quoted string starting at position {position}."
  | unexpectedCharacter c position =>
    unsupported text
      s!"unexpected character {Text.quoted (String.ofList [c])} at position {position}"
  | expected what position found =>
    unsupported text s!"expected {what} at position {position}, found {Text.quoted found}"
  | unexpectedToken found position =>
    unsupported text s!"unexpected {Text.quoted found} at position {position}"
  | unknownFunction name position =>
    unsupported text s!"unknown function {Text.quoted name} at position {position}"
  | missingOperator field position =>
    unsupported text
      s!"expected a comparison operator after {Text.quoted field} at position {position}"

def rejection (text : String) (f : Fault) : Rejection :=
  ⟨.invalidFilter, f.message text, some "$filter", none⟩

end Fault

end Filter

end ODataService
