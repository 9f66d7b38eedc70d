import ODataService.Assoc
import ODataService.Text.Split

/-!
# Path templates

The path of an endpoint may hold slots in braces, `name` or `name:kind`, that stand for any text of
their kind. `Template.match?` gives what the slots of a template stand for in a path. A slot takes
as much as it can, the first slot before all others, as long as the rest of the path is left for the
rest of the template. Braces that hold no name stand for themselves.
-/

namespace ODataService.Url

/-- What a slot stands for. -/
inductive SlotKind where
  /-- A text without slashes. -/
  | segment
  /-- A text without line breaks, which may be empty. -/
  | path
  | integer
  | decimal
  /-- Thirty-two hexadecimal digits, with hyphens between their groups or without. -/
  | uuid
deriving DecidableEq, Repr

namespace SlotKind

/-- The kind with a name; a slot without a kind is a segment. -/
def ofName? : String → Option SlotKind
  | "" | "str" => some segment
  | "path" => some path
  | "int" => some integer
  | "float" => some decimal
  | "uuid" => some uuid
  | _ => none

/-- The splittings of a text into a non-empty part of its first `n` characters and the rest, the
longest part first. -/
def cuts (cs : List Char) : Nat → List (List Char × List Char)
  | 0 => []
  | n + 1 => (cs.take (n + 1), cs.drop (n + 1)) :: cuts cs n

/-- How many characters at the start of a text satisfy a condition. -/
def runLength (p : Char → Bool) (cs : List Char) : Nat := (cs.takeWhile p).length

/-- The splittings behind digits, with a fraction or without. -/
def decimalCuts (cs : List Char) : List (List Char × List Char) :=
  (cuts cs (runLength Char.isDigit cs)).flatMap fun (whole, rest) =>
    match rest with
    | '.' :: tail =>
      (cuts tail (runLength Char.isDigit tail)).map (fun (part, rest) =>
        (whole ++ '.' :: part, rest)) ++ [(whole, rest)]
    | _ => [(whole, rest)]

/-- Whether a character is a hexadecimal digit. -/
def isHexDigit (c : Char) : Bool :=
  c.isDigit || ('a' ≤ c && c ≤ 'f') || ('A' ≤ c && c ≤ 'F')

/-- The groups of the digits of an identifier. -/
def uuidGroups : List Nat := [8, 4, 4, 4, 12]

/-- A text without a hyphen at its start. -/
def withoutHyphen : List Char → List Char
  | '-' :: cs => cs
  | cs => cs

/-- What is left of a text behind groups of hexadecimal digits. -/
def behindGroups? : List Nat → List Char → Option (List Char)
  | [], cs => some cs
  | n :: ns, cs =>
    if (cs.take n).all isHexDigit && (cs.take n).length = n then
      behindGroups? ns (if ns.isEmpty then cs.drop n else withoutHyphen (cs.drop n))
    else none

/-- The ways to split a text into one that a slot stands for and the rest, the longest first. -/
def splits (cs : List Char) : SlotKind → List (List Char × List Char)
  | segment => cuts cs (runLength (· != '/') cs)
  | path => cuts cs (runLength (· != '\n') cs) ++ [([], cs)]
  | integer => cuts cs (runLength Char.isDigit cs)
  | decimal => decimalCuts cs
  | uuid =>
    match behindGroups? uuidGroups cs with
    | some rest => [(cs.take (cs.length - rest.length), rest)]
    | none => []

end SlotKind

/-- A piece of a template. -/
inductive Piece where
  | literal (c : Char)
  | slot (name : String) (kind : SlotKind)
deriving DecidableEq, Repr

/-- A path with slots. -/
abbrev Template := List Piece

namespace Template

/-- Why a text is no template. -/
inductive Fault where
  | unknownKind (name : String)
  /-- Names that more than one slot has. -/
  | repeatedNames (names : List String) (text : String)
deriving DecidableEq, Repr

def Fault.kind : Fault → String
  | unknownKind _ => "AssertionError"
  | repeatedNames .. => "ValueError"

/-- The wording of a fault. -/
def Fault.message : Fault → String
  | unknownKind name => s!"Unknown path convertor '{name}'"
  | repeatedNames names text =>
    let ending := if 1 < names.length then "s" else ""
    let listed := Text.joinWith ", " names
    s!"Duplicated param name{ending} {listed} at path {text}"

def startsName (c : Char) : Bool := c.isAlpha || c = '_'

def continuesName (c : Char) : Bool := c.isAlphanum || c = '_'

/-- Splits off a name. -/
def name? : List Char → Option (String × List Char)
  | [] => none
  | c :: cs =>
    if startsName c then
      some (String.ofList (c :: cs.takeWhile continuesName), cs.dropWhile continuesName)
    else none

/-- Splits off the rest of a slot behind its opening brace: its name and that of its kind. -/
def slot? (cs : List Char) : Option (String × String × List Char) := do
  let (name, rest) ← name? cs
  match rest with
  | '\x7d' :: rest => some (name, "", rest)
  | ':' :: rest => do
    let (kind, rest) ← name? rest
    match rest with
    | '\x7d' :: rest => some (name, kind, rest)
    | _ => none
  | _ => none

/-- The pieces of a text; `fuel` bounds their number. -/
def pieces : Nat → List Char → Except Fault Template
  | 0, _ | _, [] => .ok []
  | fuel + 1, c :: cs =>
    match if c = '\x7b' then slot? cs else none with
    | none => (pieces fuel cs).map (.literal c :: ·)
    | some (name, kindName, rest) =>
      match SlotKind.ofName? kindName with
      | none => .error (.unknownKind kindName)
      | some kind => (pieces fuel rest).map (.slot name kind :: ·)

def slotNames (t : Template) : List String :=
  t.filterMap fun
    | .slot name _ => some name
    | .literal _ => none

/-- The texts that occur in a list more than once, in order and each once. -/
def repeated (names : List String) : List String :=
  ((names.filter fun name => 1 < names.count name).eraseDups).mergeSort (· ≤ ·)

def parse (text : String) : Except Fault Template := do
  let t ← pieces text.length text.toList
  match repeated (slotNames t) with
  | [] => return t
  | names => throw (.repeatedNames names text)

/-- What the slots of a template stand for in a path. One line break at the end of the path is
passed over. -/
def match? : Template → List Char → Option (Assoc String)
  | [], cs => if cs = [] || cs = ['\n'] then some [] else none
  | .literal _ :: _, [] => none
  | .literal c :: t, d :: cs => if c = d then match? t cs else none
  | .slot name kind :: t, cs =>
    (kind.splits cs).findSome? fun (taken, rest) =>
      (match? t rest).map ((name, String.ofList taken) :: ·)

/-- A template without slots is the path of its own text, and of that text with a line break. -/
theorem match?_literals (cs ds : List Char) :
    match? (cs.map .literal) ds = if ds = cs ∨ ds = cs ++ ['\n'] then some [] else none := by
  induction cs generalizing ds with
  | nil => simp [match?]
  | cons c cs ih =>
    cases ds with
    | nil => simp [match?]
    | cons d ds =>
      simp only [List.map_cons, match?, ih, List.cons_append, List.cons.injEq]
      by_cases h : c = d
      · simp [h]
      · simp [h, Ne.symm h]

end Template

end ODataService.Url
