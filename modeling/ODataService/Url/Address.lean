import ODataService.Text.Split
import ODataService.Url.Percent

/-!
# Addresses in URLs

A host in brackets is an IPv6 address or an address of a future kind. `isAddress6` is the grammar
of IPv6 addresses in words: eight groups of one to four hexadecimal digits, of which one run may be
left out in favour of `::`; the last two groups may be written as an IPv4 address; a zone may
follow behind a percent sign.
-/

namespace ODataService.Url

/-- Whether a text is a byte in decimal digits without a leading zero. -/
def isOctet (cs : List Char) : Bool :=
  match cs with
  | ['0'] => true
  | '0' :: _ | [] => false
  | cs => cs.all Char.isDigit && cs.length ≤ 3 && Nat.ofDigitChars 10 cs 0 ≤ 255

/-- Whether a text is an IPv4 address. -/
def isAddress4 (cs : List Char) : Bool :=
  let parts := Text.splitOn '.' cs
  parts.length == 4 && parts.all isOctet

/-- Whether a text is a group of an IPv6 address. -/
def isGroup (cs : List Char) : Bool :=
  !cs.isEmpty && cs.length ≤ 4 && cs.all fun c => (hexValue? c).isSome

/-- How many groups a list of parts amounts to, if it is one; an IPv4 address may stand at the end
for two groups. -/
def groupCount? : List (List Char) → Option Nat
  | [] => some 0
  | [p] => if isGroup p then some 1 else if isAddress4 p then some 2 else none
  | p :: ps => if isGroup p then (groupCount? ps).map (· + 1) else none

/-- The parts of a run of groups; the empty text has none. -/
def groupParts (cs : List Char) : List (List Char) :=
  if cs.isEmpty then [] else Text.splitOn ':' cs

/-- The text in front of the first `::` and, if there is one, the text behind it. -/
def cutGap : List Char → List Char × Option (List Char)
  | [] => ([], none)
  | ':' :: ':' :: cs => ([], some cs)
  | c :: cs => let (a, b) := cutGap cs; (c :: a, b)

/-- Whether a text without a zone is an IPv6 address. -/
def isPlainAddress6 (cs : List Char) : Bool :=
  match cutGap cs with
  | (all, none) => groupCount? (groupParts all) == some 8
  | (front, some behind) =>
    let front := groupParts front
    front.all isGroup &&
      match groupCount? (groupParts behind) with
      | some n => front.length + n ≤ 7
      | none => false

/-- Whether a text is the name of a zone. -/
def isZone (cs : List Char) : Bool := !cs.isEmpty && !cs.contains '%'

/-- Whether a text is an IPv6 address. -/
def isAddress6 (cs : List Char) : Bool :=
  match Text.cut '%' cs with
  | (address, none) => isPlainAddress6 address
  | (address, some zone) => isPlainAddress6 address && isZone zone

/-- Whether a text behind the letter `v` makes an address of a future kind: a version in hexadecimal
digits, a point, and the address. -/
def isFutureAddress (cs : List Char) : Bool :=
  let (version, rest) := cs.span fun c => (hexValue? c).isSome
  match rest with
  | '.' :: _ :: _ => !version.isEmpty
  | _ => false

end ODataService.Url
