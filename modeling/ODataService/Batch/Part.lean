import ODataService.Error

/-!
# Parts of a batch

A batch is a list of parts: single operations and changesets, which are lists of operations. An
operation is a request, or what stands in its place when no request could be read.
-/

namespace ODataService.Batch

/-- A request inside a batch. Header names are in lower case. -/
structure PartRequest where
  method : String
  url : String
  headers : Assoc String := []
  body : String := ""
deriving DecidableEq, Repr

/-- Why an operation cannot be read. -/
inductive Unreadable where
  /-- No line of the part is a request line. -/
  | noRequestLine
  /-- The part is announced as a changeset, but its boundary is missing or that of the batch. -/
  | noOwnBoundary
deriving DecidableEq, Repr

/-- The wording of the cause. -/
def Unreadable.message : Unreadable → String
  | noRequestLine => "Invalid request format: no HTTP request line"
  | noOwnBoundary => "Changeset without its own boundary"

/-- One operation of a batch. -/
inductive Operation where
  | request (r : PartRequest)
  | unreadable (cause : Unreadable)
deriving DecidableEq, Repr

/-- One part of a batch. -/
inductive Part where
  | single (operation : Operation)
  | changeset (operations : List Operation)
deriving DecidableEq, Repr

/-- Why the body of a batch is refused. -/
inductive Fault where
  /-- The boundary does not occur. -/
  | missingBoundary (boundary : String)
  /-- A changeset inside a changeset. -/
  | nestedChangeset
deriving DecidableEq, Repr

/-- The wording of a fault. -/
def Fault.message : Fault → String
  | missingBoundary boundary => s!"Batch body does not contain boundary '{boundary}'"
  | nestedChangeset => "Changesets must not be nested"

def Fault.rejection (f : Fault) : Rejection := ⟨.badRequest, f.message, none, none⟩

/-- The request of an operation that reads without changing anything. -/
def Operation.isRead : Operation → Bool
  | request r => r.method == "GET"
  | unreadable _ => false

end ODataService.Batch
