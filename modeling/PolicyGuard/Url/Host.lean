import PolicyGuard.Url.Domain
import PolicyGuard.Url.Ip
import PolicyGuard.Url.Percent

/-!
Hosts of URLs: domains, addresses, and the hosts of schemes that this library
knows nothing about, which stay as they are written.
-/

namespace PolicyGuard.Url

inductive Host where
  | domain (name : List Char)
  | ipv4 (address : Nat)
  | ipv6 (pieces : List Nat)
  deriving DecidableEq, Repr

namespace Host

def text : Host → List Char
  | domain name => name
  | ipv4 address => ipv4Text address
  | ipv6 pieces => ipv6Text pieces

/-- An address between brackets. -/
def bracketed? (cs : List Char) : Option Host :=
  if cs.getLast? = some ']' then (ipv6? (cs.drop 1).dropLast).map ipv6 else none

/-- The host of a scheme with a known form. -/
def special? (cs : List Char) : Option Host :=
  if cs.head? = some '[' then bracketed? cs
  else do
    let bytes := ByteArray.mk ((percentDecode cs).map UInt8.ofNat).toArray
    let decoded ← String.fromUTF8? bytes
    let name ← domainToAscii? decoded.toList
    if endsInNumber name then (ipv4? name).map ipv4 else some (domain name)

/-- The characters that no host has. -/
def isForbidden (c : Char) : Bool :=
  ['\x00', '\t', '\n', '\r', ' ', '#', '/', ':', '<', '>', '?', '@', '[', '\\', ']', '^',
    '|'].contains c

/-- The host of any other scheme. -/
def opaque? (cs : List Char) : Option Host :=
  if cs.head? = some '[' then bracketed? cs
  else if cs.any isForbidden then none
  else some (domain (percentEncode isControl cs))

end Host

end PolicyGuard.Url
