import ODataService.Text.Split

/-!
# Batch responses

The body that answers a batch: each response between a delimiter line with two header lines and
the next delimiter, and a closing delimiter at the end.
-/

namespace ODataService.Batch

/-- The boundary of a batch response with the given identifier. -/
def responseBoundary (id : String) : String := s!"batchresponse_{id}"

/-- The header lines of a part, with the blank line behind them. -/
def partHead : String :=
  "Content-Type: application/http\r\nContent-Transfer-Encoding: binary\r\n\r\n"

/-- One response with the delimiter in front. -/
def renderPart (boundary response : String) : String :=
  s!"--{boundary}\r\n{partHead}{response}\r\n"

/-- The body that answers a batch with the given responses. -/
def render (boundary : String) (responses : List String) : String :=
  String.join (responses.map (renderPart boundary)) ++ s!"--{boundary}--"

/-- The content type of a batch response. -/
def responseType (boundary : String) : String := s!"multipart/mixed; boundary={boundary}"

end ODataService.Batch
