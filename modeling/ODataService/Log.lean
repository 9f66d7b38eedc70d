/-!
# The log

What the service reports to its operator besides its answers.
-/

namespace ODataService

/-- How serious an entry is. -/
inductive Level where
  | info
  | warning
  | error
deriving DecidableEq, Repr

/-- The level as the log shows it. -/
def Level.name : Level → String
  | .info => "INFO"
  | .warning => "WARNING"
  | .error => "ERROR"

/-- The part of the service that an entry comes from. -/
inductive Channel where
  | service
  | requests
  | batches
  | descriptions
  | startup
deriving DecidableEq, Repr

/-- The channel as the log shows it. -/
def Channel.name : Channel → String
  | .service => "odata_engine"
  | .requests => "odata_engine.handler"
  | .batches => "odata_engine.batch"
  | .descriptions => "odata_engine.metadata"
  | .startup => "odata_engine.api"

/-- An entry. A failure that it is about is not part of it. -/
structure LogEntry where
  level : Level
  channel : Channel
  message : String
deriving DecidableEq, Repr

end ODataService
