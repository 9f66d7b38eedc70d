import ODataService.Http.Message
import ODataService.Text.Latin1
import ODataService.Text.Quoted
import ODataService.Text.Utf8

/-!
# Headers on the network

A response can be sent only if its headers are made of characters that stand for bytes. The caller
reads these bytes as UTF-8, as it has written those of the request, and may fail in turn.
-/

namespace ODataService.Http

/-- Why the headers of a response do not reach the caller. -/
inductive HeaderFault where
  /-- Characters in a row, the first of them at the position, stand for no byte. -/
  | unsendable (position : Nat) (characters : List Char)
  /-- Some of the bytes are no character. -/
  | unreadable (fault : Text.Utf8.Fault)
deriving DecidableEq, Repr

namespace HeaderFault

def kind : HeaderFault → String
  | unsendable .. => "UnicodeEncodeError"
  | unreadable _ => "UnicodeDecodeError"

/-- The last of `count` positions in a row. -/
def lastPosition (first count : Nat) : Nat := first + count - 1

/-- The wording of the fault. What is refused is named by its number if it is alone, and else by its
positions. -/
def message : HeaderFault → String
  | unsendable position characters =>
    let shown :=
      match characters with
      | [c] => s!"character '{String.ofList (Text.escapeCodePoint c)}' in position {position}"
      | cs => s!"characters in position {position}-{lastPosition position cs.length}"
    s!"'latin-1' codec can't encode {shown}: ordinal not in range(256)"
  | unreadable ⟨position, bytes, reason⟩ =>
    let shown :=
      match bytes with
      | [b] => s!"byte 0x{String.ofList (Text.hexDigits 2 b.toNat)} in position {position}"
      | bs => s!"bytes in position {position}-{lastPosition position bs.length}"
    s!"'utf-8' codec can't decode {shown}: {reason.message}"

end HeaderFault

/-- The fault of a text in a header, if it cannot be sent. -/
def textFault? (s : String) : Option HeaderFault :=
  (Text.Latin1.firstBeyond? s).map fun (position, cs) => .unsendable position cs

/-- The first fault in headers that cannot be sent. -/
def headerFault? : Assoc String → Option HeaderFault
  | [] => none
  | (name, value) :: hs => (textFault? name).or ((textFault? value).or (headerFault? hs))

/-- A response, if it can be sent. -/
def Response.sendable (r : Response) : Except HeaderFault Response :=
  match headerFault? r.headers with
  | none => .ok r
  | some fault => .error fault

/-- A text in a header that was sent, as the caller reads it. -/
def readText (s : String) : Except HeaderFault String :=
  (Text.Utf8.decodeStrictly (Text.Latin1.bytes s)).mapError .unreadable

/-- Headers that were sent, as the caller reads them. -/
def readHeaders : Assoc String → Except HeaderFault (Assoc String)
  | [] => .ok []
  | (name, value) :: hs => do
    let name ← readText name
    let value ← readText value
    let hs ← readHeaders hs
    return (name, value) :: hs

/-- A response as it reaches the caller. -/
def Response.delivered (r : Response) : Except HeaderFault Response := do
  let sent ← r.sendable
  let headers ← readHeaders sent.headers
  return { sent with headers := headers }

end ODataService.Http
