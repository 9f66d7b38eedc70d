import ODataService.Filter.Fault

/-!
# Balance of a filter text

Before a filter is read, its parentheses and quotes are checked over the whole text. A quote opens
or closes a string unless a backslash stands before it, so a doubled quote inside a string closes
it and opens it again. Parentheses inside strings do not count.
-/

namespace ODataService.Filter

/-- What the scan has seen: the open parentheses, innermost first, the quote that opened the
current string, and whether the last character was a backslash. -/
structure Balance where
  opened : List Nat := []
  quote : Option Nat := none
  afterBackslash : Bool := false

namespace Balance

/-- Whether the scan is inside a string. -/
def inQuotes (b : Balance) : Bool := b.quote.isSome

/-- Takes in the character at `position`. -/
def step (b : Balance) (position : Nat) (c : Char) : Except Fault Balance :=
  let next : Balance := { b with afterBackslash := c == '\\' }
  if c = '\'' && !b.afterBackslash then
    .ok { next with quote := if b.inQuotes then none else some position }
  else if b.inQuotes then .ok next
  else if c = '(' then .ok { next with opened := position :: b.opened }
  else if c = ')' then
    match b.opened with
    | [] => .error (.unmatchedClosing position)
    | _ :: opened => .ok { next with opened := opened }
  else .ok next

/-- Takes in a text that starts at `position`. -/
def scan (b : Balance) (position : Nat) : List Char → Except Fault Balance
  | [] => .ok b
  | c :: cs => do
    let b ← b.step position c
    b.scan (position + 1) cs

/-- What the end of the text leaves open. -/
def finish (b : Balance) : Except Fault Unit :=
  match b.opened.getLast? with
  | some outermost => .error (.unclosedOpening b.opened.length outermost)
  | none =>
    match b.quote with
    | some position => .error (.unclosedQuote position)
    | none => .ok ()

end Balance

/-- Checks that parentheses and quotes balance. -/
def checkBalance (text : String) : Except Fault Unit := do
  let b ← Balance.scan {} 0 text.toList
  b.finish

end ODataService.Filter
