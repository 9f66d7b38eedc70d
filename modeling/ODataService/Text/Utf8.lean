/-!
# Reading UTF-8

Request bodies and percent-encoded texts arrive as bytes. `Utf8.decode` reads any byte sequence: a
well-formed character becomes itself, and every longest run of bytes that starts a character but
does not finish it, as well as every byte that starts none, becomes one replacement character.

Headers are read strictly. `Utf8.fault?` tells where a byte sequence first is no text and why.
-/

namespace ODataService.Text.Utf8

/-- The character that stands for bytes that are no character. -/
def replacement : Char := '\uFFFD'

/-- A character whose first bytes were read: the bits so far, how many bytes are still to come, and
the bounds of the next one. The bounds shut out overlong forms, surrogates and code points beyond
the last. -/
structure Pending where
  bits : Nat
  missing : Nat
  low : Nat
  high : Nat

/-- What one byte gives: the characters that are now known and the character still being read. -/
abbrev Step := List Char × Option Pending

/-- Reads a byte at the start of a character. -/
def start (b : UInt8) : Step :=
  let n := b.toNat
  if n < 0x80 then ([Char.ofNat n], none)
  else if 0xC2 ≤ n && n ≤ 0xDF then ([], some ⟨n - 0xC0, 1, 0x80, 0xBF⟩)
  else if n = 0xE0 then ([], some ⟨0, 2, 0xA0, 0xBF⟩)
  else if n = 0xED then ([], some ⟨0xD, 2, 0x80, 0x9F⟩)
  else if 0xE1 ≤ n && n ≤ 0xEF then ([], some ⟨n - 0xE0, 2, 0x80, 0xBF⟩)
  else if n = 0xF0 then ([], some ⟨0, 3, 0x90, 0xBF⟩)
  else if 0xF1 ≤ n && n ≤ 0xF3 then ([], some ⟨n - 0xF0, 3, 0x80, 0xBF⟩)
  else if n = 0xF4 then ([], some ⟨4, 3, 0x80, 0x8F⟩)
  else ([replacement], none)

/-- Reads a byte inside a character. A byte that does not belong there ends it unfinished and
starts the next one. -/
def next (p : Pending) (b : UInt8) : Step :=
  if p.low ≤ b.toNat && b.toNat ≤ p.high then
    let bits := p.bits * 0x40 + (b.toNat - 0x80)
    match p.missing with
    | 0 | 1 => ([Char.ofNat bits], none)
    | missing + 1 => ([], some ⟨bits, missing, 0x80, 0xBF⟩)
  else
    let (cs, pending) := start b
    (replacement :: cs, pending)

/-- Reads bytes after a character that may be unfinished. -/
def decodeFrom : Option Pending → List UInt8 → List Char
  | none, [] => []
  | some _, [] => [replacement]
  | none, b :: bs => (start b).1 ++ decodeFrom (start b).2 bs
  | some p, b :: bs => (next p b).1 ++ decodeFrom (next p b).2 bs

/-- The characters that the bytes denote. -/
def decode (bs : List UInt8) : List Char := decodeFrom none bs

/-! ## Where bytes are no text -/

/-- Why bytes are no character. -/
inductive Reason where
  /-- The byte starts no character. -/
  | badStart
  /-- The next byte does not belong into the character. -/
  | badContinuation
  /-- There is no next byte. -/
  | endOfData
deriving DecidableEq, Repr

/-- The wording of a reason. -/
def Reason.message : Reason → String
  | badStart => "invalid start byte"
  | badContinuation => "invalid continuation byte"
  | endOfData => "unexpected end of data"

/-- Bytes that are no character, and the position of the first of them. -/
structure Fault where
  position : Nat
  bytes : List UInt8
  reason : Reason
deriving DecidableEq, Repr

/-- The first fault of bytes after a character that may be unfinished. The character starts at
`position`, and `begun` are its bytes so far. -/
def faultFrom (position : Nat) (begun : List UInt8) : Option Pending → List UInt8 → Option Fault
  | none, [] => none
  | some _, [] => some ⟨position, begun, .endOfData⟩
  | none, b :: bs =>
    match start b with
    | (_, some p) => faultFrom position [b] (some p) bs
    | (cs, none) =>
      if cs = [replacement] then some ⟨position, [b], .badStart⟩
      else faultFrom (position + 1) [] none bs
  | some p, b :: bs =>
    if p.low ≤ b.toNat && b.toNat ≤ p.high then
      match next p b with
      | (_, some q) => faultFrom position (begun ++ [b]) (some q) bs
      | (_, none) => faultFrom (position + begun.length + 1) [] none bs
    else some ⟨position, begun, .badContinuation⟩

/-- The first fault of bytes that are no text throughout. -/
def fault? (bs : List UInt8) : Option Fault := faultFrom 0 [] none bs

/-- The text that bytes denote, if they do throughout. -/
def decodeStrictly (bs : List UInt8) : Except Fault String :=
  match fault? bs with
  | none => .ok (String.ofList (decode bs))
  | some fault => .error fault

end ODataService.Text.Utf8
