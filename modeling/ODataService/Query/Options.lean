import ODataService.Query.OrderBy
import ODataService.Query.PageSize
import ODataService.Query.Select

/-!
# System query options

The parameters of a request whose names start with a dollar sign. All faults among them are found
together: `SystemOptions.problems` lists them in the order of the options, unknown ones last, and
`SystemOptions.parse` succeeds exactly when the list is empty. Other parameters are ignored.
-/

namespace ODataService

/-- The system query options of a request. -/
structure SystemOptions where
  filter : Option String := none
  orderby : Option String := none
  top : Option Nat := none
  skip : Option Nat := none
  select : Option String := none
  expand : Option String := none
  count : Bool := false
  search : Option String := none
  format : Option String := none
deriving Repr

namespace SystemOptions

/-- The options that the service knows. -/
def known : List String :=
  ["$filter", "$orderby", "$top", "$skip", "$select", "$expand", "$count", "$search", "$format"]

/-- What is wrong with an option. -/
inductive Problem where
  | pageSize (option raw : String) (fault : Query.PageSizeFault)
  | emptySelect
  | count (raw : String)
  | unknown (option : String)
deriving DecidableEq, Repr

namespace Problem

/-- The option that the problem concerns. -/
def target : Problem → String
  | pageSize option _ _ => option
  | emptySelect => "$select"
  | count _ => "$count"
  | unknown option => option

/-- The name of the problem's kind. -/
def code : Problem → String
  | pageSize _ _ fault => fault.code
  | emptySelect => "string_too_short"
  | count _ => "value_error"
  | unknown _ => "extra_forbidden"

/-- The wording of the problem. -/
def message : Problem → String
  | pageSize option raw _ =>
    s!"{option} must be a non-negative integer, got {Text.quoted raw}"
  | emptySelect => Query.emptySelectMessage
  | count raw => s!"$count must be 'true' or 'false', got {Text.quoted raw}"
  | unknown option => s!"Unknown system query option {option}"

/-- Whether the option is unknown. -/
def isUnknown : Problem → Bool
  | unknown _ => true
  | _ => false

/-- The problem as an entry of a list of details. -/
def detail (p : Problem) : ErrorDetail := ⟨p.code, p.message, some p.target⟩

end Problem

/-- The meaning of a `$count` value. -/
def parseCount? (raw : String) : Option Bool :=
  match Text.lower (Text.strip raw) with
  | "true" => some true
  | "false" => some false
  | _ => none

/-- The problem with a page size, if it has one. -/
def pageSizeProblems (params : Assoc String) (option : String) : List Problem :=
  match Assoc.get? params option with
  | none => []
  | some raw =>
    match Query.PageSize.parse raw with
    | .ok _ => []
    | .error fault => [.pageSize option raw fault]

/-- The problem with `$select`, if it has one. -/
def selectProblems (params : Assoc String) : List Problem :=
  if Assoc.get? params "$select" = some "" then [.emptySelect] else []

/-- The problem with `$count`, if it has one. -/
def countProblems (params : Assoc String) : List Problem :=
  match Assoc.get? params "$count" with
  | none => []
  | some raw => if (parseCount? raw).isSome then [] else [.count raw]

/-- Whether a parameter is a system query option. -/
def isOption (name : String) : Bool := Text.startsWith name "$"

/-- The options that the service does not know. -/
def unknownOptions (params : Assoc String) : List String :=
  (Assoc.keys params).filter fun name => isOption name && !known.contains name

/-- All problems of the options. -/
def problems (params : Assoc String) : List Problem :=
  pageSizeProblems params "$top" ++ pageSizeProblems params "$skip" ++ selectProblems params ++
    countProblems params ++ (unknownOptions params).map .unknown

/-- The rejection of options with problems; a single problem with a known option is the whole
message. -/
def rejection (first : Problem) (others : List Problem) : Rejection :=
  let code := if first.target = "$select" then .invalidSelect else .invalidQuery
  if others.isEmpty && !first.isUnknown then ⟨code, first.message, some first.target, none⟩
  else
    ⟨code, "Invalid query options", some first.target,
      some ((first :: others).map Problem.detail)⟩

/-- The page size under a name; a faulty one counts as missing. -/
def pageSize? (params : Assoc String) (option : String) : Option Nat :=
  (Assoc.get? params option).bind fun raw => (Query.PageSize.parse raw).toOption

/-- Reads the system query options among the parameters. -/
def parse (params : Assoc String) : Except Rejection SystemOptions :=
  match problems params with
  | first :: others => .error (rejection first others)
  | [] =>
    .ok {
      filter := Assoc.get? params "$filter"
      orderby := Assoc.get? params "$orderby"
      top := pageSize? params "$top"
      skip := pageSize? params "$skip"
      select := Assoc.get? params "$select"
      expand := Assoc.get? params "$expand"
      count := ((Assoc.get? params "$count").bind parseCount?).getD false
      search := Assoc.get? params "$search"
      format := Assoc.get? params "$format" }

end SystemOptions

end ODataService
