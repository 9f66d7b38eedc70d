import ODataService.Error
import ODataService.Text.Split

/-!
# Preconditions

A request may depend on the tag of the record it addresses. `If-Match` lists tags one of which the
record must have, `If-None-Match` lists tags none of which it should have; a `*` stands for every
tag, and a blank header for no condition.
-/

namespace ODataService.EntityTag

/-- The tags listed in a header; none when there is no condition. -/
def listedTags? (header : Option String) : Option (List String) :=
  match header with
  | none => none
  | some h => if Text.isBlankText h then none else some (Text.commaList h)

def names (tags : List String) (tag : String) : Bool := tags.contains "*" || tags.contains tag

/-- Whether an `If-Match` header lets a request on a record with the given tag through. -/
def satisfies (tag : String) (ifMatch : Option String) : Bool :=
  match listedTags? ifMatch with
  | none => true
  | some tags => names tags tag

/-- Whether an `If-None-Match` header says that the client has the record already. -/
def isNotModified (tag : String) (ifNoneMatch : Option String) : Bool :=
  match listedTags? ifNoneMatch with
  | none => false
  | some tags => names tags tag

/-- Refuses a request whose `If-Match` header does not name the tag. -/
def require (tag : String) (ifMatch : Option String) : Except Rejection Unit :=
  if satisfies tag ifMatch then .ok ()
  else .error ⟨.preconditionFailed, "Precondition Failed: ETag mismatch", some "If-Match", none⟩

end ODataService.EntityTag
