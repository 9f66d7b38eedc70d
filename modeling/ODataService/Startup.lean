import ODataService.Remote.Client
import ODataService.Remote.Settings
import ODataService.Settings
import ODataService.Store.Basic

/-!
# Starting the service

What the environment says about how the server runs and which record store it serves. A remote
record store that does not answer does not keep the service from starting: the failure goes to the
log and the declarations can be loaded later.
-/

namespace ODataService.Startup

/-! ## The server -/

def logLevels : List String :=
  ["CRITICAL", "FATAL", "ERROR", "WARN", "WARNING", "INFO", "DEBUG", "NOTSET"]

/-- Why the server does not start. -/
inductive Fault where
  | settings (fault : Settings.Fault)
  | unknownLevel (name : String)
deriving DecidableEq, Repr

def Fault.kind : Fault → String
  | settings fault => fault.kind
  | unknownLevel _ => "ValueError"

/-- The wording of a fault. -/
def Fault.message : Fault → String
  | settings fault => fault.message
  | unknownLevel name => s!"Unknown level: {Text.quoted name}"

/-- How the server runs. -/
structure Launch where
  settings : Settings
  /-- Whether the server starts again when its files change. -/
  reload : Bool
  /-- The name of the log level in lower case. -/
  logLevel : String
deriving Repr

/-- How the server runs in the given environment. -/
def Launch.ofEnvironment (env : Assoc String) : Except Fault Launch := do
  let settings ← (Settings.ofEnvironment env).mapError .settings
  let reload := Text.lower (Settings.textIn env "ODATA_RELOAD" "false") == "true"
  let logLevel := Text.lower (Settings.textIn env "ODATA_LOG_LEVEL" "info")
  let name := Text.upper logLevel
  if logLevels.contains name then return ⟨settings, reload, logLevel⟩
  else throw (.unknownLevel name)

/-- What the log says when the server starts. -/
def Launch.greeting (l : Launch) : LogEntry :=
  let path := if l.settings.basePath = "" then "/" else l.settings.basePath
  ⟨.info, .service, s!"Starting OData service on {l.settings.host}:{l.settings.socket}{path}"⟩

/-! ## The record store -/

/-- The record store that the environment names: the one in memory, empty, or a remote one. -/
inductive Backend where
  | memory (store : Store)
  | remote (settings : Remote.Settings) (world : World Remote.Client)

/-- Writes to the log that a remote record store could not be reached. -/
def reportUnreachable (url reason : String) : Remote.Run Unit :=
  Action.report .warning .startup s!"could not load metadata from {url}: {reason}"

/-- Loads the declarations of a remote record store. An error answer and a broken connection are
only reported. -/
def connect (s : Remote.Settings) : Remote.Run Unit :=
  tryCatch (do let _ ← Remote.refresh) fun
    | .remote e => reportUnreachable s.baseUrl e.message
    | .unreachable reason => reportUnreachable s.baseUrl reason
    | f => Action.fail f

/-- The record store that the environment names; `answers` are what a remote one will answer. -/
def Backend.ofEnvironment (env : Assoc String) (answers : List Remote.Answer) :
    Except Failure Backend := do
  match ← (Remote.Settings.ofEnvironment? env).mapError fun f => .value (.unreadable f) with
  | none => return .memory {}
  | some s =>
    let (result, world) := (connect s).exec { store := { connection := s.connection answers } }
    let _ ← result
    return .remote s world

end ODataService.Startup
