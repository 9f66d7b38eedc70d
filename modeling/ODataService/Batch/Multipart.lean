import ODataService.Batch.Boundary
import ODataService.Batch.Part
import ODataService.Batch.RequestLine
import ODataService.Text.Case
import ODataService.Text.Split

/-!
# Multipart bodies

`Batch.parse` reads the body of a batch. The body is cut at every delimiter, which is `--` and the
boundary; what stands in front of the first delimiter, blank sections and sections that start with
`--` are left out. A section that announces a multipart body is a changeset with a boundary of its
own, any other section is an operation: its first request line, the header lines up to a blank
line, and the body.
-/

namespace ODataService.Batch

/-- Stores the header of a line; a line without a colon has none. -/
def addHeader (headers : Assoc String) (line : List Char) : Assoc String :=
  match Text.cut ':' line with
  | (name, some value) =>
    let name := Text.lower (String.ofList (Text.trim name))
    Assoc.set headers name (String.ofList (Text.trim value))
  | (_, none) => headers

def isBlankLine (line : List Char) : Bool := line.all Text.isBlank

/-- The header lines in front of the first blank line, and the lines behind it. -/
def splitHead : List (List Char) → List (List Char) × List (List Char)
  | [] => ([], [])
  | line :: lines =>
    if isBlankLine line then ([], lines)
    else let (head, body) := splitHead lines; (line :: head, body)

/-- Lines as one text. -/
def joinLines (lines : List (List Char)) : List Char := ['\r', '\n'].intercalate lines

/-- The request whose line is followed by the given lines. -/
def requestOf (method url : String) (lines : List (List Char)) : PartRequest :=
  let (head, body) := splitHead lines
  -- of two headers with one name the later counts
  ⟨method, url, head.foldl addHeader [], String.ofList (Text.trim (joinLines body))⟩

def operationOfLines : List (List Char) → Operation
  | [] => .unreadable .noRequestLine
  | line :: lines =>
    match requestLine? line with
    | some (method, url) => .request (requestOf method url lines)
    -- a line that is no request line is passed over, also when it stands in a body
    | none => operationOfLines lines

/-- The operation in a section. -/
def operationOf (piece : List Char) : Operation := operationOfLines (Text.lines piece)

def delimiter (boundary : List Char) : List Char := '-' :: '-' :: boundary

/-- Whether a section is left out. -/
def isSkipped (piece : List Char) : Bool :=
  piece.all Text.isBlank || ['-', '-'].isPrefixOf piece

def sections (boundary body : List Char) : List (List Char) :=
  (Text.splitOnMarker (delimiter boundary) body).tail.filter (!isSkipped ·)

/-- The boundary of a changeset inside a batch with another one. -/
def ownBoundary? (boundary piece : List Char) : Option (List Char) :=
  -- the boundary of the batch itself is no boundary of a changeset
  (boundary? piece).filter (· != boundary)

/-- The operations of a changeset; another changeset is refused. -/
def operationsOf : List Part → Except Fault (List Operation)
  | [] => .ok []
  | .single operation :: parts => do
    let operations ← operationsOf parts
    return operation :: operations
  | .changeset _ :: _ => .error .nestedChangeset

/-- No piece is longer than the text it is cut from. -/
theorem length_le_of_mem_split {marker cs piece : List Char} {skip : Nat}
    (h : piece ∈ Text.splitOnMarkerFrom marker skip cs) : piece.length ≤ cs.length := by
  induction cs generalizing skip piece with
  | nil => cases skip <;> simp_all [Text.splitOnMarkerFrom]
  | cons c cs ih =>
    cases skip with
    | succ skip =>
      have := ih (by simpa [Text.splitOnMarkerFrom] using h)
      simp only [List.length_cons]; omega
    | zero =>
      simp only [Text.splitOnMarkerFrom] at h
      split at h
      · rcases List.mem_cons.1 h with rfl | h
        · simp
        · have := ih h
          simp only [List.length_cons]; omega
      · cases hs : Text.splitOnMarkerFrom marker 0 cs with
        | nil => rw [hs] at h; simp_all [Text.consHead]
        | cons p ps =>
          rw [hs] at h
          rcases List.mem_cons.1 h with rfl | h
          · have := ih (hs ▸ List.mem_cons_self)
            simp only [List.length_cons]; omega
          · have := ih (hs ▸ List.mem_cons_of_mem p h)
            simp only [List.length_cons]; omega

/-- A piece behind a marker is shorter than the text. -/
theorem length_lt_of_mem_tail {marker cs piece : List Char}
    (h : piece ∈ (Text.splitOnMarker marker cs).tail) : piece.length < cs.length := by
  unfold Text.splitOnMarker at h
  induction cs with
  | nil => simp [Text.splitOnMarkerFrom] at h
  | cons c cs ih =>
    simp only [Text.splitOnMarkerFrom] at h
    split at h
    · have := length_le_of_mem_split (List.tail_cons ▸ h)
      simp only [List.length_cons]; omega
    · cases hs : Text.splitOnMarkerFrom marker 0 cs with
      | nil => rw [hs] at h; simp [Text.consHead] at h
      | cons p ps =>
        rw [hs] at h ih
        have := ih h
        simp only [List.length_cons]; omega

/-- A section is shorter than the body it stands in. -/
theorem length_lt_of_mem_sections {boundary body piece : List Char}
    (h : piece ∈ sections boundary body) : piece.length < body.length :=
  length_lt_of_mem_tail (List.mem_filter.1 h).1

def parts (boundary body : List Char) : Except Fault (List Part) :=
  if Text.occursIn (delimiter boundary) body then
    (sections boundary body).attach.mapM fun ⟨s, _⟩ =>
      -- the whole section is searched, its payload included
      if announcesMultipart s then
        match ownBoundary? boundary s with
        | none => .ok (.single (.unreadable .noOwnBoundary))
        | some own => do
          let inner ← parts own s
          let operations ← operationsOf inner
          return .changeset operations
      else .ok (.single (operationOf s))
  else .error (.missingBoundary (String.ofList boundary))
termination_by body.length
decreasing_by exact length_lt_of_mem_sections (by assumption)

/-- Reads the body of a batch. -/
def parse (boundary body : String) : Except Rejection (List Part) :=
  (parts boundary.toList body.toList).mapError Fault.rejection

end ODataService.Batch
