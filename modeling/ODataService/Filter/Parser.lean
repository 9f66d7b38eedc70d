import ODataService.Filter.Balance
import ODataService.Filter.Token
import ODataService.Filter.Tree
import ODataService.Text.Case

/-!
# Reading a filter

```text
conjunction := disjunction ("and" disjunction)*
disjunction := unary ("or" unary)*
unary       := "not" unary | primary
primary     := "(" conjunction ")" | call | comparison
call        := ("contains" | "startswith" | "endswith") "(" NAME "," STRING ")"
             | "substringof" "(" STRING "," NAME ")"
comparison  := NAME ("eq" | "ne" | "gt" | "ge" | "lt" | "le") literal
literal     := STRING | NUMBER | "true" | "false" | "null"
```

The conjunction is the outermost connective, so `a or b and c` reads as `(a or b) and c`. The words
`and`, `or` and `not` are written in lower case, all other words in any case. A name with a
parenthesis behind it is a call.

`Filter.parse` checks the balance of the whole text first, then reads its tokens.
-/

namespace ODataService.Filter

/-- The front token; past the end it is the end of the text. -/
def front : List Token → Token
  | t :: _ => t
  | [] => ⟨.finish, "", 0, .null⟩

/-- Whether the front token is the given word. -/
def atWord (word : String) (ts : List Token) : Bool :=
  (front ts).kind == .name && (front ts).text == word

/-- Reads a token of the given kind. -/
def expect (kind : TokenKind) (what : String) (ts : List Token) :
    Except Fault (Token × List Token) :=
  let t := front ts
  if t.kind = kind then .ok (t, ts.tail) else .error (.expected what t.position t.shown)

def literalWord? (word : String) : Option Scalar :=
  match Text.lower word with
  | "true" => some (.bool true)
  | "false" => some (.bool false)
  | "null" => some .null
  | _ => none

def Token.literal? (t : Token) : Option Scalar :=
  match t.kind with
  | .string | .number => some t.value
  | .name => literalWord? t.text
  | _ => none

def readLiteral (ts : List Token) : Except Fault (Scalar × List Token) :=
  let t := front ts
  match t.literal? with
  | some v => .ok (v, ts.tail)
  | none => .error (.expected "a literal" t.position t.shown)

/-- The comparison operator that a token names. -/
def Token.comparator? (t : Token) : Option Comparator :=
  if t.kind = .name then Comparator.ofName? (Text.lower t.text) else none

/-- Reads what follows the property of a comparison. -/
def readComparison (field : String) (ts : List Token) : Except Fault (Filter × List Token) :=
  let t := front ts
  match t.comparator? with
  | none => .error (.missingOperator field t.position)
  | some op => do
    let (value, ts) ← readLiteral ts.tail
    return (.compare field op value, ts)

def Token.textValue (t : Token) : String :=
  match t.value with
  | .str s => s
  | _ => ""

def readProperty (ts : List Token) : Except Fault (String × List Token) := do
  let (t, ts) ← expect .name "a property name" ts
  return (t.text, ts)

def readText (ts : List Token) : Except Fault (String × List Token) := do
  let (t, ts) ← expect .string "a quoted string" ts
  return (t.textValue, ts)

def readCall (name : Token) (ts : List Token) : Except Fault (Filter × List Token) :=
  match TextFunction.ofName? (Text.lower name.text) with
  | none => .error (.unknownFunction name.text name.position)
  -- the text comes first, and the property behind it
  | some .substringof => do
    let (_, ts) ← expect .leftParen "'('" ts
    let (argument, ts) ← readText ts
    let (_, ts) ← expect .comma "','" ts
    let (field, ts) ← readProperty ts
    let (_, ts) ← expect .rightParen "')'" ts
    return (.text .substringof field argument, ts)
  | some function => do
    let (_, ts) ← expect .leftParen "'('" ts
    let (field, ts) ← readProperty ts
    let (_, ts) ← expect .comma "','" ts
    let (argument, ts) ← readText ts
    let (_, ts) ← expect .rightParen "')'" ts
    return (.text function field argument, ts)

/-- A single operand stays as it is, several are connected. -/
def connect (op : Connective) : Filter → List Filter → Filter
  | f, [] => f
  | f, fs => .logical op (f :: fs)

/-- What stands where no filter can start, or behind a whole one. -/
def unexpected {α : Type} (ts : List Token) : Except Fault α :=
  .error (.unexpectedToken (front ts).shown (front ts).position)

mutual

/-- Reads a conjunction. Every level of nesting and every operand uses up some `fuel`. -/
def readConjunction : Nat → List Token → Except Fault (Filter × List Token)
  | 0, ts => unexpected ts
  | fuel + 1, ts => do
    let (f, ts) ← readDisjunction fuel ts
    let (fs, ts) ← readMoreConjuncts fuel ts
    return (connect .and f fs, ts)

/-- Reads the operands of a conjunction behind its first. -/
def readMoreConjuncts : Nat → List Token → Except Fault (List Filter × List Token)
  | 0, ts => unexpected ts
  | fuel + 1, ts =>
    if atWord "and" ts then do
      let (f, ts) ← readDisjunction fuel ts.tail
      let (fs, ts) ← readMoreConjuncts fuel ts
      return (f :: fs, ts)
    else .ok ([], ts)

def readDisjunction : Nat → List Token → Except Fault (Filter × List Token)
  | 0, ts => unexpected ts
  | fuel + 1, ts => do
    let (f, ts) ← readUnary fuel ts
    let (fs, ts) ← readMoreDisjuncts fuel ts
    return (connect .or f fs, ts)

/-- Reads the operands of a disjunction behind its first. -/
def readMoreDisjuncts : Nat → List Token → Except Fault (List Filter × List Token)
  | 0, ts => unexpected ts
  | fuel + 1, ts =>
    if atWord "or" ts then do
      let (f, ts) ← readUnary fuel ts.tail
      let (fs, ts) ← readMoreDisjuncts fuel ts
      return (f :: fs, ts)
    else .ok ([], ts)

/-- Reads an operand with the negations in front of it. -/
def readUnary : Nat → List Token → Except Fault (Filter × List Token)
  | 0, ts => unexpected ts
  | fuel + 1, ts =>
    if atWord "not" ts then do
      let (f, ts) ← readUnary fuel ts.tail
      return (.not f, ts)
    else readPrimary fuel ts

/-- Reads an operand. -/
def readPrimary : Nat → List Token → Except Fault (Filter × List Token)
  | 0, ts => unexpected ts
  | fuel + 1, ts =>
    match (front ts).kind with
    | .leftParen => do
      let (f, ts) ← readConjunction fuel ts.tail
      let (_, ts) ← expect .rightParen "')'" ts
      return (f, ts)
    | .name =>
      -- a name is a call or the property of a comparison, which the next token decides
      if (front ts.tail).kind = .leftParen then readCall (front ts) ts.tail
      else readComparison (front ts).text ts.tail
    | _ => unexpected ts

end

/-- Fuel for a token list: each token is reached through at most five readers. -/
def fuelFor (ts : List Token) : Nat := 5 * ts.length + 5

def ofTokens (ts : List Token) : Except Fault Filter := do
  let (f, rest) ← readConjunction (fuelFor ts) ts
  if (front rest).kind = .finish then return f else unexpected rest

/-- Reads a text without blanks around it. -/
def parseTrimmed (text : String) : Except Fault Filter := do
  checkBalance text
  let ts ← tokenize text
  ofTokens ts

/-- Reads a `$filter` option; a blank one filters nothing. -/
def parse (raw : String) : Except Rejection (Option Filter) :=
  let text := Text.strip raw
  -- a blank text is no filter at all
  if text = "" then .ok none
  else
    match parseTrimmed text with
    | .ok f => .ok (some f)
    | .error fault => .error (fault.rejection text)

end ODataService.Filter
