import Mathlib.Tactic.MkIffOfInductiveProp
import ODataService.Batch.Multipart
import ODataService.Proofs.Text.Splitting

/-!
# Writing batches

The body of a batch: a delimiter line in front of every part and the closing delimiter at the end.
A request is written with the two header lines of its part, an empty line, the request line, its
headers, an empty line and its body; a changeset with the header that gives its boundary, an empty
line, and its requests between delimiters of its own. All lines end with CRLF.

`IsReadable` says which batches can be read again. Texts that are trimmed when they are read must
have no blanks at their ends, and no line may break inside of a URL or header. A request must not
look like a changeset, and no delimiter may begin but where one is written (`apart`).
-/

namespace ODataService.Batch

/-- A part as it is written. Header names may be in any case. -/
inductive Written where
  | request (r : PartRequest)
  | changeset (boundary : String) (requests : List PartRequest)

/-! ## Texts -/

def lineEnd : List Char := ['\r', '\n']

/-- Lines with their ends. -/
def linesText (lines : List (List Char)) : List Char := lines.flatMap (· ++ lineEnd)

def requestLineText (r : PartRequest) : List Char :=
  r.method.toList ++ ' ' :: (r.url.toList ++ " HTTP/1.1".toList)

def headerText (h : String × String) : List Char := h.1.toList ++ ':' :: ' ' :: h.2.toList

/-- The lines in front of a request line. -/
def mimeLines : List (List Char) :=
  ["Content-Type: application/http".toList, "Content-Transfer-Encoding: binary".toList, []]

/-- The text of a request between two delimiter lines. -/
def requestText (r : PartRequest) : List Char :=
  linesText (mimeLines ++ requestLineText r :: r.headers.map headerText ++ [[]]) ++
    (r.body.toList ++ lineEnd)

/-- Texts between delimiter lines. -/
def delimited (marker : List Char) (texts : List (List Char)) : List Char :=
  texts.flatMap (fun t => marker ++ (lineEnd ++ t)) ++ (marker ++ ['-', '-'])

/-- The lines in front of the requests of a changeset. -/
def changesetHead (boundary : String) : List Char :=
  linesText ["Content-Type: multipart/mixed; boundary=".toList ++ boundary.toList, []]

def changesetRequests (boundary : String) (rs : List PartRequest) : List Char :=
  delimited (delimiter boundary.toList) (rs.map requestText)

/-- The text of a part between two delimiter lines. -/
def Written.text : Written → List Char
  | request r => requestText r
  | changeset boundary rs => changesetHead boundary ++ (changesetRequests boundary rs ++ lineEnd)

/-- The body of a batch; only blanks are expected behind it. -/
def write (boundary : String) (parts : List Written) (behind : String) : String :=
  String.ofList (delimited (delimiter boundary.toList) (parts.map Written.text) ++ behind.toList)

/-! ## What is read -/

/-- The request with its header names in lower case. -/
def PartRequest.lowered (r : PartRequest) : PartRequest :=
  { r with headers := r.headers.map fun h => (Text.lower h.1, h.2) }

/-- The part that a written one stands for. -/
def Written.part : Written → Part
  | request r => .single (.request r.lowered)
  | changeset _ rs => .changeset (rs.map fun r => .request r.lowered)

/-! ## What can be read -/

/-- Whether no marker begins in the texts between the delimiters, nor in the text `front` that
stands in front of them. -/
def apart (marker : List Char) :
    (front : List Char) → (texts : List (List Char)) → (behind : List Char) → Bool
  | front, [], behind => !Text.beginsIn marker front (delimited marker [] ++ behind)
  | front, t :: ts, behind =>
    !Text.beginsIn marker front (delimited marker (t :: ts) ++ behind) &&
      apart marker (lineEnd ++ t) ts behind

@[mk_iff]
structure IsReadableHeader (h : String × String) : Prop where
  name_ne : h.1 ≠ ""
  name_trimmed : Text.trim h.1.toList = h.1.toList
  name_colon : ':' ∉ h.1.toList
  name_line : '\n' ∉ h.1.toList
  value_trimmed : Text.trim h.2.toList = h.2.toList
  value_line : '\n' ∉ h.2.toList

instance (h : String × String) : Decidable (IsReadableHeader h) :=
  decidable_of_iff _ (isReadableHeader_iff h).symm

@[mk_iff]
structure PartRequest.IsReadable (r : PartRequest) : Prop where
  method : r.method ∈ partMethods
  url_ne : r.url ≠ ""
  url_trimmed : Text.trim r.url.toList = r.url.toList
  url_line : '\n' ∉ r.url.toList
  headers : ∀ h ∈ r.headers, IsReadableHeader h
  distinct : (r.headers.map fun h => Text.lower h.1).Nodup
  body_trimmed : Text.trim r.body.toList = r.body.toList
  body_breaks : Text.breaksWithCrlf r.body.toList = true
  /-- The request does not look like a changeset. -/
  single : announcesMultipart (requestText r) = false

instance (r : PartRequest) : Decidable r.IsReadable :=
  decidable_of_iff _ (PartRequest.isReadable_iff r).symm

@[mk_iff]
structure IsReadableChangeset (boundary : String) (rs : List PartRequest) : Prop where
  boundary_ne : boundary ≠ ""
  boundary_chars : boundary.toList.all isBoundaryChar = true
  requests : ∀ r ∈ rs, r.IsReadable
  separated : apart (delimiter boundary.toList) (lineEnd ++ changesetHead boundary)
    (rs.map requestText) lineEnd = true

instance (boundary : String) (rs : List PartRequest) :
    Decidable (IsReadableChangeset boundary rs) :=
  decidable_of_iff _ (isReadableChangeset_iff boundary rs).symm

def Written.IsReadable : Written → Prop
  | request r => r.IsReadable
  | changeset boundary rs => IsReadableChangeset boundary rs

instance (p : Written) : Decidable p.IsReadable :=
  match p with
  | .request r => inferInstanceAs (Decidable r.IsReadable)
  | .changeset boundary rs => inferInstanceAs (Decidable (IsReadableChangeset boundary rs))

@[mk_iff]
structure IsReadable (boundary : String) (parts : List Written) (behind : String) : Prop where
  readable : ∀ p ∈ parts, p.IsReadable
  separated : apart (delimiter boundary.toList) [] (parts.map Written.text) behind.toList = true
  behind : behind.toList.all Text.isBlank = true

instance (boundary : String) (parts : List Written) (behind : String) :
    Decidable (IsReadable boundary parts behind) :=
  decidable_of_iff _ (isReadable_iff boundary parts behind).symm

end ODataService.Batch
