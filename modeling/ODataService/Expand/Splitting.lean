import ODataService.Error
import ODataService.Text.Quoted
import ODataService.Text.Split

/-!
# Splitting an `$expand` text

The entries of an `$expand` text and the options of an entry stand between separators that are
inside no parentheses and no quoted string. Every quote opens or closes a string. A text whose
parentheses or quotes do not balance is refused as a whole.
-/

namespace ODataService.Expand

/-- Why an `$expand` text is refused. -/
inductive Fault where
  /-- A closing parenthesis without an opening one. -/
  | unmatchedClosing (position : Nat)
  /-- Parentheses that are never closed. -/
  | unclosedOpening (text : String)
  /-- A quoted string that does not end. -/
  | unclosedQuote (text : String)
  /-- An option that is not supported. -/
  | unsupportedOption (option property : String)
  /-- Something behind the options of an entry. -/
  | trailingText (entry : String)
  /-- An entry without a property. -/
  | missingProperty (entry : String)
deriving DecidableEq, Repr

/-- The options that an entry may have. -/
def supportedOptions : List String :=
  ["$expand", "$filter", "$orderby", "$select", "$skip", "$top"]

namespace Fault

/-- The wording of a fault. -/
def message : Fault → String
  | unmatchedClosing position => s!"Unbalanced ')' in $expand at position {position}"
  | unclosedOpening text => s!"Unbalanced parentheses in $expand: {Text.quoted text}"
  | unclosedQuote text => s!"Unclosed quoted string in $expand: {Text.quoted text}"
  | unsupportedOption option property =>
    s!"Unsupported $expand option {Text.quoted option} on {Text.quoted property}. " ++
      "Supported: " ++ Text.joinWith ", " supportedOptions
  | trailingText entry =>
    s!"Unexpected text after options in $expand entry {Text.quoted entry}"
  | missingProperty entry =>
    s!"Missing navigation property in $expand entry {Text.quoted entry}"

def rejection (f : Fault) : Rejection := ⟨.invalidExpand, f.message, some "$expand", none⟩

end Fault

/-- Splits what is left of `whole`, whose next character stands at `position`, inside `depth`
parentheses and, if `quoted`, inside a string. -/
def splitFrom (whole : String) (separator : Char) :
    (position depth : Nat) → (quoted : Bool) → List Char → Except Fault (List (List Char))
  | _, depth, quoted, [] =>
    if depth ≠ 0 then .error (.unclosedOpening whole)
    else if quoted then .error (.unclosedQuote whole)
    else .ok [[]]
  | position, depth, quoted, c :: cs =>
    if c = '\'' then
      (splitFrom whole separator (position + 1) depth (!quoted) cs).map (Text.consHead c)
    else if quoted then
      (splitFrom whole separator (position + 1) depth quoted cs).map (Text.consHead c)
    else if c = '(' then
      (splitFrom whole separator (position + 1) (depth + 1) quoted cs).map (Text.consHead c)
    else if c = ')' then
      if depth = 0 then .error (.unmatchedClosing position)
      else (splitFrom whole separator (position + 1) (depth - 1) quoted cs).map (Text.consHead c)
    else if c = separator && depth = 0 then
      (splitFrom whole separator (position + 1) depth quoted cs).map ([] :: ·)
    else (splitFrom whole separator (position + 1) depth quoted cs).map (Text.consHead c)

/-- The parts of a text between the separators outside parentheses and strings. -/
def splitTopLevel (text : String) (separator : Char) : Except Fault (List String) :=
  (splitFrom text separator 0 0 false text.toList).map fun parts => parts.map String.ofList

end ODataService.Expand
