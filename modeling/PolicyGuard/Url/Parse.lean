import PolicyGuard.Url.Host
import PolicyGuard.Url.Path

/-!
Absolute URLs, read as the URL standard says. Kept are scheme, host, port and
path; user, query and fragment only have to be skipped.
-/

namespace PolicyGuard

structure Url where
  scheme : String
  host : Option Url.Host
  /-- The port, where it is not the default of the scheme. -/
  port : Option Nat
  path : String
  deriving DecidableEq, Repr

namespace Url

/-- The port that a scheme stands for. -/
def defaultPort? : String → Option Nat
  | "http" | "ws" => some 80
  | "https" | "wss" => some 443
  | "ftp" => some 21
  | _ => none

/-- The port that the URL leads to. -/
def effectivePort? (u : Url) : Option Nat :=
  u.port.or (defaultPort? u.scheme)

/-- Schemes whose URLs always have a host. -/
def isSpecial (scheme : String) : Bool :=
  (defaultPort? scheme).isSome

def isSchemeChar (c : Char) : Bool :=
  c.isAlphanum || c = '+' || c = '-' || c = '.'

/-- The scheme, in lower case, and what follows the colon. -/
def scheme? (cs : List Char) : Option (String × List Char) :=
  let name := cs.takeWhile isSchemeChar
  match cs.dropWhile isSchemeChar with
  | ':' :: rest =>
    if (name.head?).any Char.isAlpha then some (String.ofList (name.map Char.toLower), rest)
    else none
  | _ => none

def endsAuthority (special : Bool) (c : Char) : Bool :=
  c = '/' || c = '?' || c = '#' || (special && c = '\\')

/-- A host with what follows it; colons inside brackets belong to it. -/
def splitHost (special : Bool) (inside : Bool) : List Char → List Char × List Char
  | [] => ([], [])
  | c :: rest =>
    if endsAuthority special c || (c = ':' && !inside) then ([], c :: rest)
    else
      let inside := if c = '[' then true else if c = ']' then false else inside
      let (host, tail) := splitHost special inside rest
      (c :: host, tail)

/-- What follows the last `@` of an authority, and whether a name or a password
stands before it. -/
def afterUser? (special : Bool) (cs : List Char) : Option (Bool × List Char) :=
  let authority := cs.takeWhile (!endsAuthority special ·)
  let rest := cs.dropWhile (!endsAuthority special ·)
  let host := (authority.reverse.takeWhile (· ≠ '@')).reverse
  if host.length = authority.length then some (false, cs)
  else
    let user := authority.take (authority.length - host.length - 1)
    if user.isEmpty && host.isEmpty && !rest.isEmpty then none
    else some (!user.isEmpty && user ≠ [':'], host ++ rest)

/-- The port after a colon. An empty one and the default of the scheme are none. -/
def port? (scheme : String) (cs : List Char) : Option (Option Nat × List Char) :=
  let digits := cs.takeWhile Char.isDigit
  let rest := cs.dropWhile Char.isDigit
  let ends := match rest with
    | [] => true
    | c :: _ => endsAuthority true c
  let n := digitsValue digits
  if !ends || 65535 < n then none
  else if digits.isEmpty || defaultPort? scheme = some n then some (none, rest)
  else some (some n, rest)

/-- The path up to a query or a fragment. -/
def pathPart (cs : List Char) : List Char :=
  cs.takeWhile fun c => c ≠ '?' && c ≠ '#'

/-- What follows the first slash of a path, in which both slashes count. -/
def afterSlash (cs : List Char) : List Char :=
  match (pathPart cs).map fun c => if c = '\\' then '/' else c with
  | '/' :: rest => rest
  | rest => rest

/-- The path after an authority. -/
def authorityPath (special : Bool) (cs : List Char) : List Char :=
  if special then pathText false (pathSegments false (afterSlash cs))
  else
    match pathPart cs with
    | [] => []
    | '/' :: rest => pathText false (pathSegments false rest)
    | rest => pathText false (pathSegments false rest)

/-- The URL after two slashes. -/
def authority? (scheme : String) (cs : List Char) : Option Url := do
  let special := isSpecial scheme
  let (hasUser, rest) ← afterUser? special cs
  let (hostText, rest) := splitHost special false rest
  let host ←
    if hostText.isEmpty then
      if special || hasUser || rest.head? = some ':' then none else some none
    else if special then (Host.special? hostText).map some
    else (Host.opaque? hostText).map some
  let (port, rest) ←
    match rest with
    | ':' :: tail => port? scheme tail
    | _ => some (none, rest)
  return ⟨scheme, host, port, String.ofList (authorityPath special rest)⟩

def isSlash (c : Char) : Bool :=
  c = '/' || c = '\\'

/-- The host of a file. A drive letter is no host, and `localhost` is none. -/
def fileHost? (cs : List Char) : Option (Option Host × List Char) :=
  let hostText := cs.takeWhile (!endsAuthority true ·)
  let rest := cs.dropWhile (!endsAuthority true ·)
  if isDriveLetter hostText then some (none, cs)
  else if hostText.isEmpty then some (none, rest)
  else do
    let host ← Host.special? hostText
    return (if host = .domain "localhost".toList then none else some host, rest)

/-- The URL of a file. A path with a drive letter leaves no host. -/
def file? (cs : List Char) : Option Url := do
  let (host, rest) ←
    match cs with
    | a :: b :: rest => if isSlash a && isSlash b then fileHost? rest else some (none, cs)
    | _ => some (none, cs)
  let segments := pathSegments true (afterSlash rest)
  let host := if (segments.head?).any isDriveLetter then none else host
  return ⟨"file", host, none, String.ofList (pathText true segments)⟩

/-- The URL of a scheme without a known form. -/
def generic? (scheme : String) (cs : List Char) : Option Url :=
  match cs with
  | '/' :: '/' :: rest => authority? scheme rest
  | '/' :: rest => some ⟨scheme, none, none, String.ofList (pathText false (pathSegments false (pathPart rest)))⟩
  | rest => some ⟨scheme, none, none, String.ofList (percentEncode isControl (pathPart rest))⟩

/-- A text without control characters and spaces at its ends, tabs and line ends. -/
def clean (cs : List Char) : List Char :=
  let edge (c : Char) : Bool := c.toNat ≤ 0x20
  (((cs.dropWhile edge).reverse.dropWhile edge).reverse).filter fun c =>
    c ≠ '\t' && c ≠ '\n' && c ≠ '\r'

/-- The URL that a text writes. -/
def parse? (text : String) : Option Url := do
  let (scheme, rest) ← scheme? (clean text.toList)
  if scheme = "file" then file? rest
  else if isSpecial scheme then authority? scheme (rest.dropWhile isSlash)
  else generic? scheme rest

end Url

end PolicyGuard
