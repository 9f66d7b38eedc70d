import ODataService.Json.Coercion
import ODataService.Text.Split

/-!
# Settings

How a service is set up. Settings are given by name, as JSON values or as environment variables,
and each has a default. The base path is kept with one slash in front and none behind, the root as
the empty text.
-/

namespace ODataService

/-- How deep `$expand` may nest. -/
inductive ExpandDepth where
  /-- A number: how many levels lie below it, and whether it is one at least. A part of a level
  counts as a level when related records are embedded, but not when a projection is chosen. -/
  | number (levels : Nat) (whole : Bool)
  /-- A text, which is no depth as soon as something is to be expanded. -/
  | text
deriving DecidableEq, Repr

namespace ExpandDepth

/-- A whole number of levels. -/
def ofLevels (n : Nat) : ExpandDepth := .number n (1 ≤ n)

/-- The levels in which related records are embedded. -/
def levels : ExpandDepth → Except ValueFault Nat
  | number n _ => .ok n
  | text => .error (.unordered ">=" "int" "str")

/-- Whether projections keep what is expanded. -/
def isKept : ExpandDepth → Except ValueFault Bool
  | number _ whole => .ok whole
  | text => .error (.unordered "<" "str" "int")

end ExpandDepth

namespace Settings

/-- How deep `$expand` may nest unless the settings say otherwise. -/
def defaultLevels : Nat := 3

/-- The namespace unless the settings give one. -/
def defaultSpace : String := "ObjectStack"

end Settings

/-- The settings of a service. -/
structure Settings where
  /-- The address that the server binds. -/
  host : String := "0.0.0.0"
  /-- The number of the socket that the server binds. -/
  socket : Int := 8080
  /-- What stands in front of the path of every resource. -/
  basePath : String := "/odata"
  /-- Whether browsers may call from other sites. -/
  crossOrigin : Bool := true
  /-- The namespace in the `$metadata` document, a text unless it is given as another value. -/
  space : Json := .str Settings.defaultSpace
  expandDepth : ExpandDepth := .ofLevels Settings.defaultLevels
  batch : Bool := true
  search : Bool := true
  entityTags : Bool := true
  /-- Whether internal errors are answered with diagnostics. -/
  debug : Bool := false
deriving Repr

namespace Settings

/-- Why settings are refused. -/
inductive Fault where
  /-- A value under a name that no setting has. -/
  | unknownName (name : String)
  | negativeLevels
  | emptyNamespace
  /-- A value of the wrong kind. -/
  | value (fault : ValueFault)
deriving DecidableEq, Repr

def Fault.kind : Fault → String
  | unknownName _ => "TypeError"
  | negativeLevels | emptyNamespace => "ValueError"
  | value fault => fault.kind

/-- The wording of a fault. -/
def Fault.message : Fault → String
  | unknownName name => s!"unknown setting '{name}'"
  | negativeLevels => "max_expand_depth must be >= 0"
  | emptyNamespace => "namespace must not be empty"
  | value fault => fault.message

def normalBasePath (raw : String) : String :=
  let path := Text.dropAround '/' (Text.strip raw)
  if path = "" then "" else "/" ++ path

/-- Checks the whole part of the depth of expansions, then the namespace, and keeps the base path as
it is kept. -/
def checked (s : Settings) (depth : Int) : Except Fault Settings :=
  if depth < 0 then .error .negativeLevels
  else if s.space.isVoid then .error .emptyNamespace
  else .ok { s with basePath := normalBasePath s.basePath }

/-! ## Values by name -/

/-- A text by name; void values count as empty. -/
def textNamed (r : Record) (name default : String) : String :=
  match Keyed.get? r name with
  | none => default
  | some v => if v.isVoid then "" else v.display

/-- A switch by name; void values count as off. -/
def switchNamed (r : Record) (name : String) (default : Bool) : Bool :=
  match Keyed.get? r name with
  | none => default
  | some v => !v.isVoid

def numberNamed (r : Record) (name : String) (default : Int) : Except Fault Int :=
  match Keyed.get? r name with
  | none => .ok default
  | some v => v.asInteger.mapError .value

/-- The depth of expansions that a number or text gives, and its whole part. -/
def depthOf (v : Json) : Except ValueFault (ExpandDepth × Int) := do
  let whole ← v.asInteger
  let depth :=
    match v with
    | .str _ => ExpandDepth.text
    | .real (.finite s m e) => .number (Binary64.naturalsBelow s m e) (1 ≤ whole)
    | _ => .ofLevels whole.toNat
  return (depth, whole)

def depthNamed (r : Record) (name : String) (default : Nat) : Except Fault (ExpandDepth × Int) :=
  match Keyed.get? r name with
  | none => .ok (.ofLevels default, default)
  | some v => (depthOf v).mapError .value

/-- A base path by name: a text, or a void value for the root. -/
def basePathNamed (r : Record) (name default : String) : Except Fault String :=
  match Keyed.get? r name with
  | none => .ok default
  | some (.str s) => .ok s
  | some v => if v.isVoid then .ok "" else .error (.value (.lacks v.kindName "strip"))

/-- The names that settings have as values. -/
def names : List String :=
  ["port", "host", "base_path", "enable_cors", "namespace", "max_expand_depth", "enable_batch",
    "enable_search", "enable_etags", "debug"]

/-- Refuses the first name that is not known. -/
def checkNames (known : List String) (given : List Scalar) : Except Fault Unit :=
  match given.find? (!·.isAmong known) with
  | some name => .error (.unknownName (Json.memberName name))
  | none => .ok ()

/-- Settings from values by name. -/
def ofRecord (r : Record) : Except Fault Settings := do
  checkNames names r.keys
  let d : Settings := {}
  let basePath ← basePathNamed r "base_path" d.basePath
  let (depth, whole) ← depthNamed r "max_expand_depth" defaultLevels
  let s : Settings := {
    host := textNamed r "host" d.host
    socket := ((numberNamed r "port" d.socket).toOption).getD d.socket
    basePath := basePath
    crossOrigin := switchNamed r "enable_cors" d.crossOrigin
    space := (Keyed.get? r "namespace").getD d.space
    expandDepth := depth
    batch := switchNamed r "enable_batch" d.batch
    search := switchNamed r "enable_search" d.search
    entityTags := switchNamed r "enable_etags" d.entityTags
    debug := switchNamed r "debug" d.debug }
  s.checked whole

/-! ## Environment variables -/

/-- The words that switch a setting off. -/
def offWords : List String := ["false", "0", "no", "off"]

/-- A switch in the environment; a blank one is as if it were not there. -/
def switchIn (env : Assoc String) (name : String) (default : Bool) : Bool :=
  match Assoc.get? env name with
  | none => default
  | some raw =>
    let word := Text.strip raw
    if word = "" then default else !offWords.contains (Text.lower word)

/-- A text in the environment. -/
def textIn (env : Assoc String) (name default : String) : String :=
  (Assoc.get? env name).getD default

/-- An integer in the environment. -/
def numberIn (env : Assoc String) (name default : String) : Except Fault Int :=
  (Number.readInt (textIn env name default)).mapError fun fault => .value (.unreadable fault)

def ofEnvironment (env : Assoc String) : Except Fault Settings := do
  let d : Settings := {}
  let socket ← numberIn env "ODATA_PORT" "8080"
  let levels ← numberIn env "ODATA_MAX_EXPAND_DEPTH" "3"
  let s : Settings := {
    host := textIn env "ODATA_HOST" d.host
    socket := socket
    basePath := textIn env "ODATA_BASE_PATH" d.basePath
    crossOrigin := switchIn env "ODATA_ENABLE_CORS" d.crossOrigin
    space := .str (textIn env "ODATA_NAMESPACE" defaultSpace)
    expandDepth := .ofLevels levels.toNat
    batch := switchIn env "ODATA_ENABLE_BATCH" d.batch
    search := switchIn env "ODATA_ENABLE_SEARCH" d.search
    entityTags := switchIn env "ODATA_ENABLE_ETAGS" d.entityTags
    debug := switchIn env "ODATA_DEBUG" d.debug }
  s.checked levels

end Settings

end ODataService
