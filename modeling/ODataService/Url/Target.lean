import ODataService.Failure
import ODataService.Url.Address

/-!
# Targets of URLs

A request inside a batch names its target by a URL: relative to the service, by its whole path, or
with scheme and host. `Target.ofUrl` gives the decoded path below the base path of the service and
the query. The fragment, the scheme and the host do not matter, but a malformed host is refused.
-/

namespace ODataService.Url

/-- The URL without control characters and blanks in front, and without tabs and line breaks. -/
def cleaned (cs : List Char) : List Char :=
  (cs.dropWhile fun c => c.toNat ≤ 0x20).filter fun c => c != '\t' && c != '\r' && c != '\n'

/-- The characters of a scheme. -/
def isSchemeChar (c : Char) : Bool := c.isAlphanum || c == '+' || c == '-' || c == '.'

/-- The URL behind its scheme, if it has one. -/
def withoutScheme (cs : List Char) : List Char :=
  match Text.cut ':' cs with
  | (c :: name, some rest) => if c.isAlpha && (c :: name).all isSchemeChar then rest else cs
  | _ => cs

def endsHost (c : Char) : Bool := c == '/' || c == '?' || c == '#'

/-- The host, empty when there is none, and the URL behind it. -/
def splitHost : List Char → List Char × List Char
  | '/' :: '/' :: cs => cs.span (!endsHost ·)
  | cs => ([], cs)

def checkAddress (host : List Char) : Except UrlFault Unit :=
  match host with
  | 'v' :: rest => if isFutureAddress rest then .ok () else .error .futureAddress
  | host =>
    if isAddress4 host then .error .oldAddress
    else if isAddress6 host then .ok ()
    else .error (.notAnAddress (String.ofList host))

/-- The host without the user in front of the last `@`. -/
def withoutUser (host : List Char) : List Char :=
  (host.reverse.takeWhile (· != '@')).reverse

/-- Checks a host that contains brackets of both kinds: an address must stand between them, nothing
in front of them and at most a number behind a colon after them. -/
def checkBracketed (host : List Char) : Except UrlFault Unit :=
  let host := withoutUser host
  match Text.cut '[' host with
  | (before, some inside) =>
    let (address, behind) := Text.cut ']' inside
    let behind := behind.getD []
    if !before.isEmpty then .error .brackets
    else if !behind.isEmpty && behind.head? != some ':' then .error .brackets
    else checkAddress address
  | (_, none) => checkAddress (Text.cut ':' host).1

/-- The characters beyond ASCII whose compatibility form contains a delimiter of URLs
(Unicode 14). -/
def disguisedDelimiters : List Nat := [
  0x2047, 0x2048, 0x2049, 0x2100, 0x2101, 0x2105, 0x2106, 0x2A74, 0xFE13, 0xFE16, 0xFE55, 0xFE56,
  0xFE5F, 0xFE6B, 0xFF03, 0xFF0F, 0xFF1A, 0xFF1F, 0xFF20]

def checkBrackets (host : List Char) : Except UrlFault Unit :=
  match host.contains '[', host.contains ']' with
  | true, true => checkBracketed host
  | false, false => .ok ()
  | _, _ => .error .brackets

def checkDelimiters (host : List Char) : Except UrlFault Unit :=
  if host.any fun c => disguisedDelimiters.contains c.toNat then
    .error (.delimiter (String.ofList host))
  else .ok ()

/-- What a URL names: a path below the base path of the service, and a query. -/
structure Target where
  path : String
  query : String
deriving DecidableEq, Repr

/-- A path that starts with a slash. -/
def rooted (path : List Char) : List Char :=
  match path with
  | '/' :: _ => path
  | _ => '/' :: path

/-- The path below a base path; a path outside it stays as it is. -/
def below (base path : List Char) : List Char :=
  if base.isEmpty then path
  else if path = base then ['/']
  else if (base ++ ['/']).isPrefixOf path then path.drop base.length
  else path

/-- The base path without slashes at its end. -/
def baseOf (base : String) : List Char := (Text.dropTrailing '/' base).toList

/-- The path and query of what stands behind the host of a URL. -/
def splitPath (cs : List Char) : List Char × List Char :=
  let (path, query) := Text.cut '?' (Text.cut '#' cs).1
  (path, query.getD [])

def Target.ofUrl (base url : String) : Except UrlFault Target := do
  let (host, rest) := splitHost (withoutScheme (cleaned url.toList))
  checkBrackets host
  checkDelimiters host
  let (path, query) := splitPath rest
  return ⟨String.ofList (below (baseOf base) (rooted (unescape path))), String.ofList query⟩

end ODataService.Url
