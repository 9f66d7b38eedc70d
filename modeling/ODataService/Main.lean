import ODataService.Json.Writer
import ODataService.Startup

/-!
# The command line

Reads the environment, says how the server runs and hands the launch over as one line of JSON to
whatever runs servers. A setting that cannot be used ends the program with a message and status 1.
-/

namespace ODataService

/-- The environment variables that a launch depends on. -/
def launchVariables : List String :=
  ["ODATA_PORT", "ODATA_HOST", "ODATA_BASE_PATH", "ODATA_ENABLE_CORS", "ODATA_NAMESPACE",
    "ODATA_MAX_EXPAND_DEPTH", "ODATA_ENABLE_BATCH", "ODATA_ENABLE_SEARCH", "ODATA_ENABLE_ETAGS",
    "ODATA_DEBUG", "ODATA_RELOAD", "ODATA_LOG_LEVEL"]

def Startup.Launch.toJson (l : Startup.Launch) : Json :=
  .obj [("host", .str l.settings.host), ("port", .int l.settings.socket),
    ("reload", .bool l.reload), ("log_level", .str l.logLevel)]

def LogEntry.line (e : LogEntry) : String := s!"{e.level.name}:{e.channel.name}:{e.message}"

/-- The environment variables among `names` that are set. -/
def readEnvironment : List String → IO (Assoc String)
  | [] => pure []
  | name :: names => do
    let value ← IO.getEnv name
    let rest ← readEnvironment names
    return (value.map fun v => (name, v)).toList ++ rest

end ODataService

open ODataService in
/-- Launches the service. -/
def main : IO UInt32 := do
  let env ← readEnvironment launchVariables
  match Startup.Launch.ofEnvironment env with
  | .error f =>
    IO.eprintln s!"{f.kind}: {f.message}"
    return 1
  | .ok launch =>
    IO.eprintln launch.greeting.line
    IO.println launch.toJson.compact
    return 0
