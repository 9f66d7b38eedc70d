import ODataService.Number.Reading
import ODataService.Remote.Connection
import ODataService.Settings

/-!
# Settings of a remote record store

Where a remote record store is and how it is asked: the headers of every request, the time to wait
for an answer and which requests are tried again.
-/

namespace ODataService.Remote

/-- The settings of a remote record store. -/
structure Settings where
  baseUrl : String
  /-- What the service identifies itself by; the empty text counts as none. -/
  token : Option String := none
  /-- The seconds to wait for an answer. -/
  timeout : Binary64 := Binary64.ofDecimal false 30 0
  /-- How often a request is tried again. -/
  retries : Int := 3
  /-- The seconds to wait before the first new trial. -/
  backoff : Binary64 := Binary64.ofDecimal false 5 (-1)
  userAgent : String := "odata-engine/0.1"

/-- The statuses after which a request is tried again. -/
def retryStatuses : List Nat := [429, 502, 503, 504]

/-- The methods of the requests that are tried again. -/
def retryMethods : List String := ["GET", "HEAD", "OPTIONS"]

namespace Settings

/-- The root of the store's URLs. -/
def root (s : Settings) : String := Text.dropTrailing '/' s.baseUrl

/-- The token, unless it is empty. -/
def givenToken? (s : Settings) : Option String := s.token.filter (· != "")

/-- The headers of every request. -/
def headers (s : Settings) : Assoc String :=
  let authorization : Assoc String :=
    match s.givenToken? with
    | some token => [("Authorization", s!"Bearer {token}")]
    | none => []
  authorization ++ [("Accept", "application/json"), ("User-Agent", s.userAgent)]

/-- The conversation with the store, before the first request. -/
def connection (s : Settings) (answers : List Answer) : Connection :=
  { base := s.root, answers := answers }

/-- The names that settings have as values, apart from the root. -/
def names : List String := ["token", "timeout", "retries", "backoff", "verify", "user_agent"]

/-- Settings from values by name. The number of trials and the time between them are not looked at
before a request is tried again. -/
def ofRecord (baseUrl : String) (r : Record) : Except ODataService.Settings.Fault Settings := do
  ODataService.Settings.checkNames names r.keys
  let d : Settings := { baseUrl := baseUrl }
  let timeout ← (((Keyed.get? r "timeout").getD (.real d.timeout)).asReal).mapError .value
  return { d with
    token := ((Keyed.get? r "token").filter (!·.isVoid)).map Json.display
    timeout := timeout
    retries := ((Json.member r "retries").asInteger.toOption).getD d.retries
    backoff := ((Json.member r "backoff").asReal.toOption).getD d.backoff
    userAgent := ((Keyed.get? r "user_agent").map Json.display).getD d.userAgent }

/-- The value of an environment variable, unless it is empty. -/
def nonEmptyIn? (env : Assoc String) (name : String) : Option String :=
  (Assoc.get? env name).filter (· != "")

/-- The value of an environment variable, or a default when it is not set. -/
def textIn (env : Assoc String) (name default : String) : String :=
  (Assoc.get? env name).getD default

/-- The settings that environment variables give, if they name a remote record store. -/
def ofEnvironment? (env : Assoc String) : Except Number.Fault (Option Settings) :=
  match Text.strip (textIn env "ODATA_REMOTE_URL" "") with
  | "" => .ok none
  | url => do
    let timeout ← Number.readReal (textIn env "ODATA_TIMEOUT" "30")
    let retries ← Number.readInt (textIn env "ODATA_RETRIES" "3")
    let backoff ← Number.readReal (textIn env "ODATA_BACKOFF" "0.5")
    return some {
      baseUrl := url
      token := nonEmptyIn? env "ODATA_REMOTE_TOKEN"
      timeout := timeout
      retries := retries
      backoff := backoff }

end Settings

end ODataService.Remote
