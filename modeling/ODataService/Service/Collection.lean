import ODataService.Query.Reading
import ODataService.Service.Basic

/-!
# Answers about entity sets

The records of an entity set that a query asks for, and their number.
-/

namespace ODataService.Service

variable {σ : Type}

/-- The query that options ask for; the properties to be expanded are part of every projection. -/
def collectionQuery (s : Service σ) (o : SystemOptions) : Action (World σ) Query := do
  let q ← Action.ofRejection (Query.ofOptions s.settings.search o)
  -- whatever is selected, the expanded properties are kept
  let expanded ← s.expandedProperties o.expand
  return { q with fields := Query.includeFields q.fields expanded }

/-- The member with the number of records, if it is asked for. -/
def countMember (s : Service σ) (set : String) (q : Query) (wanted : Bool) :
    Action (World σ) Record :=
  if wanted then do
    -- the page plays no part in the number
    let n ← s.engine.count set q.forCount
    return [(countName, .int n)]
  else pure []

/-- The body of an answer with several records: their context, their number, if it is asked for, and
the records. -/
def collectionBody (s : Service σ) (set : String) (count : Record) (rows : List Json) : Json :=
  let members : Record := [("value", .arr rows)]
  .obj ((contextName, .str (s.context set)) :: (count ++ members))

/-- Answers with the records of an entity set. -/
def replyCollection (s : Service σ) (set : String) (params : Assoc String) :
    Action (World σ) Http.Response := do
  let o ← Action.ofRejection (SystemOptions.parse params)
  let q ← s.collectionQuery o
  let found ← s.engine.find (.str set) q
  let rows ← s.expandOption set found o.expand
  let count ← s.countMember set q o.count
  return .json 200 (s.collectionBody set count rows) []

def plain (text : String) : Http.Response :=
  { status := 200, headers := [("Content-Type", "text/plain")], body := text }

/-- Answers with the number of records of an entity set. -/
def replyCount (s : Service σ) (set : String) (params : Assoc String) :
    Action (World σ) Http.Response := do
  let q ← Action.ofRejection (Query.ofParams s.settings.search params)
  let n ← s.engine.count set q.forCount
  return plain (toString n)

end ODataService.Service
