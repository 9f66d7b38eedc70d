import ODataService.Http.HeaderText
import ODataService.Service.Handler
import ODataService.Url.Template

/-!
# The HTTP gateway

The gateway serves a service under its base path, next to a health check and pages that describe the
health check. It moves requests to the service and its responses back, and decides a few things
itself: what belongs to no endpoint is not found, unless a path with another slash at its end does,
to which the caller is redirected; a method that no endpoint of a path takes is not allowed; and
where calls from other sites are switched on, every answer to a call with an origin says so.
-/

namespace ODataService

/-- A request as the network delivers it, with its path decoded, its query as it was sent and its
headers as texts of bytes. -/
structure Call where
  method : String
  path : String
  query : String := ""
  headers : List (String × String) := []
  body : Http.Body := .none
deriving DecidableEq, Repr

namespace Gateway

variable {σ : Type}

/-- Headers as texts of bytes. -/
def wireHeaders (headers : List (String × String)) : List (String × String) :=
  headers.map fun (name, value) => (Text.Latin1.ofUtf8 name, Text.Latin1.ofUtf8 value)

/-- The call of a URL without scheme and host. -/
def callOf (method url : String) (headers : List (String × String)) (body : Http.Body) : Call :=
  let (path, query) := Text.cut '?' url.toList
  ⟨method, String.ofList (Url.unescape path), String.ofList (query.getD []), wireHeaders headers,
    body⟩

/-- The version that the health check shows. -/
def version : String := "0.1.0"

/-- What a path may lead to. -/
inductive Endpoint where
  | health
  /-- The description of the health check for programs. -/
  | interface
  /-- A page about the gateway. -/
  | page
  /-- The service, with the path below its base path. -/
  | service (path : String)
deriving DecidableEq, Repr

def Endpoint.methods : Endpoint → List String
  | health => ["GET"]
  | interface | page => ["GET", "HEAD"]
  | service _ => ["GET", "POST", "PUT", "PATCH", "DELETE", "OPTIONS"]

/-- A path without a line break at its end. -/
def withoutBreak (cs : List Char) : List Char :=
  if cs.getLast? = some '\n' then cs.dropLast else cs

def fixedEndpoints : Assoc Endpoint :=
  [("/openapi.json", .interface), ("/docs", .page), ("/docs/oauth2-redirect", .page),
    ("/redoc", .page), ("/health", .health)]

/-- The templates of the paths that lead to the service. -/
structure Routes where
  /-- The base path itself. -/
  root : Url.Template
  /-- What lies below the base path. -/
  below : Url.Template

/-- The slot that stands for the path below the base path. -/
def pathSlot : String := "path"

def Routes.ofBasePath (basePath : String) : Except Url.Template.Fault Routes := do
  let root ← Url.Template.parse (if basePath = "" then "/" else basePath)
  let below ← Url.Template.parse (basePath ++ "/\x7b" ++ pathSlot ++ ":path\x7d")
  return ⟨root, below⟩

/-- The endpoints that a path leads to, in the order in which they are tried. -/
def endpoints (routes : Routes) (path : String) : List Endpoint :=
  let cs := path.toList
  let plain := String.ofList (withoutBreak cs)
  let fixed := (Assoc.get? fixedEndpoints plain).toList
  let root := if (routes.root.match? cs).isSome then [Endpoint.service "/"] else []
  let below :=
    match routes.below.match? cs with
    | some slots => [Endpoint.service ("/" ++ (Assoc.get? slots pathSlot).getD "")]
    | none => []
  fixed ++ root ++ below

/-- The query of a call without tabs and line breaks, up to a fragment. -/
def queryOf (c : Call) : String :=
  let kept := c.query.toList.filter fun c => c != '\t' && c != '\r' && c != '\n'
  String.ofList (Text.cut '#' kept).1

/-- Headers under their names in lower case; of headers with the same name the first counts. -/
def firstHeaders (headers : List (String × String)) : Assoc String :=
  headers.foldl (fun m (k, v) =>
    let name := Text.lower k
    if Assoc.has m name then m else Assoc.set m name v) []

/-- The request to the service that a call makes. -/
def requestOf (c : Call) (path : String) : Http.Request :=
  Http.Request.make c.method path (queryOf c) (firstHeaders c.headers) c.body

/-- A response of the gateway itself. -/
def plainJson (status : Nat) (v : Json) : Http.Response :=
  { status := status, headers := [("Content-Type", "application/json")], body := v.compact }

/-- A response that only says why there is no other. -/
def detail (status : Nat) : Http.Response :=
  plainJson status (.obj [("detail", .str (Http.reason status))])

/-- The title of the gateway. -/
def title : String := "OData V4 Service"

/-- A page about the gateway. -/
def page : Http.Response :=
  { status := 200, headers := [("Content-Type", "text/html; charset=utf-8")], body := title }

/-- How the health check is described. -/
def healthInterface : Json :=
  let schema : Json := .obj [("additionalProperties", .bool true), ("type", .str "object"),
    ("title", .str "Response Health Health Get")]
  let content : Json := .obj [("application/json", .obj [("schema", schema)])]
  .obj [("summary", .str "Health"), ("description", .str "Health check endpoint."),
    ("operationId", .str "health_health_get"),
    ("responses", .obj [("200",
      .obj [("description", .str "Successful Response"), ("content", content)])])]

/-- The description of the gateway for programs. -/
def interface : Json :=
  .obj [("openapi", .str "3.1.0"),
    ("info", .obj [("title", .str title),
      ("description", .str "OData V4 endpoint over registered object types."),
      ("version", .str version)]),
    ("paths", .obj [("/health", .obj [("get", healthInterface)])])]

/-- Whether a character may stand in the name of a host. -/
def isHostChar (c : Char) : Bool := c.isAlphanum || c == '.' || c == '-'

/-- Whether a character may stand in an address in brackets. -/
def isAddressChar (c : Char) : Bool := (Url.hexValue? c).isSome || c == ':' || c == '.'

/-- Whether a text is empty or a colon with digits behind it. -/
def isPortSuffix : List Char → Bool
  | [] => true
  | ':' :: ds => !ds.isEmpty && ds.all Char.isDigit
  | _ => false

/-- Whether a text names a host: a name or an address in brackets, and perhaps a port. -/
def isHost (cs : List Char) : Bool :=
  match cs with
  | '[' :: rest =>
    let address := rest.takeWhile isAddressChar
    address.contains ':' && (match rest.drop address.length with
      | ']' :: suffix => isPortSuffix suffix
      | _ => false)
  | cs =>
    let name := cs.takeWhile isHostChar
    !name.isEmpty && isPortSuffix (cs.drop name.length)

/-- The host that a caller asks for, unless it is malformed. -/
def hostOf (c : Call) : String :=
  ((Assoc.get? (firstHeaders c.headers) "host").filter (isHost ·.toList)).getD "testserver"

/-- The path with other slashes at its end: without those it has, or with one if it has none. -/
def otherPath? (path : String) : Option String :=
  if path = "/" then none
  else if path.toList.getLast? = some '/' then some (Text.dropTrailing '/' path)
  else some (path ++ "/")

/-- The characters that stay as they are in the path of a redirection. -/
def keptInPath : List Char := ":/%=@[]!$&'()*+,;".toList

/-- The response that sends a caller to another path with the same query. -/
def redirect (c : Call) (path : String) : Http.Response :=
  let query := if c.query = "" then "" else "?" ++ c.query
  let location := Url.escape keptInPath ("http://" ++ hostOf c ++ path).toList ++
    Url.escape ('?' :: '#' :: keptInPath) query.toList
  { status := 307
    headers := [("Location", String.ofList location)] }

/-- The answer to a health check. -/
def health (s : Service σ) (w : World σ) : Http.Response :=
  plainJson 200 (.obj [("ok", .bool true), ("version", .str version),
    ("entitySets", .int (s.engine.registry w.store).length)])

def answerAt (s : Service σ) (c : Call) : Endpoint → StateM (World σ) Http.Response
  | .health => do
    let w ← get
    return health s w
  | .interface => return plainJson 200 interface
  | .page => return page
  | .service path => s.handle (requestOf c path)

def originHeaders (s : Service σ) (c : Call) : Assoc String :=
  match s.settings.crossOrigin, Assoc.get? (firstHeaders c.headers) "origin" with
  | true, some origin =>
    [("Access-Control-Allow-Origin", origin), ("Access-Control-Allow-Credentials", "true"),
      ("Access-Control-Expose-Headers", "ETag, Location")]
  | _, _ => []

/-- The answer to a call that no endpoint takes; `candidates` are the endpoints of its path. -/
def refusal (routes : Routes) (c : Call) (candidates : List Endpoint) : Http.Response :=
  if !candidates.isEmpty then detail 405
  else
    match (otherPath? c.path).filter fun path => !(endpoints routes path).isEmpty with
    | some path => redirect c path
    | none => detail 404

/-- Answers a call without regard to its origin. -/
def answer (s : Service σ) (routes : Routes) (c : Call) : StateM (World σ) Http.Response :=
  let candidates := endpoints routes c.path
  match candidates.find? (·.methods.contains c.method) with
  | some e => answerAt s c e
  | none => pure (refusal routes c candidates)

/-- Answers a call, unless the answer does not reach the caller. -/
def serve (s : Service σ) (routes : Routes) (c : Call) :
    StateM (World σ) (Except Http.HeaderFault Http.Response) := do
  let r ← answer s routes c
  return { r with headers := r.headers ++ originHeaders s c }.delivered

end Gateway

end ODataService
