import FeatureFlags.Url.Address
import FeatureFlags.Url.DomainName
import FeatureFlags.Url.Failure
import FeatureFlags.Url.Percent

/-!
# Hosts

The host of a URL with a special scheme is a domain name or a numeric address; that of any other
scheme is a text that is kept as it is, except for an IPv6 address in brackets.
-/

namespace FeatureFlags.Url

inductive Host
  | domain (name : List Char)
  | ipv4 (address : Nat)
  | ipv6 (groups : List Nat)
deriving DecidableEq, Repr

namespace Host

def empty : Host := domain []

def write : Host → List Char
  | domain name => name
  | ipv4 address => Ipv4.write address
  | ipv6 groups => '[' :: Ipv6.write groups ++ [']']

/-- Reads the text behind an opening bracket. -/
def readBracketed (text : List Char) : Except Failure Host :=
  if text.getLast? = some ']' then
    match Ipv6.read? text.dropLast with
    | some groups => .ok (ipv6 groups)
    | none => .error .invalidIpv6Address
  else .error .invalidIpv6Address

/-- Reads a domain name or an address. -/
def readDomain (text : List Char) : Except Failure Host :=
  match domainToAscii? (percentDecode (Text.Utf8.encode text)) with
  | none => .error .invalidDomainName
  | some [] => .error .emptyHost
  | some name =>
    if Ipv4.isMeant name then
      match Ipv4.read? name with
      | some address => .ok (ipv4 address)
      | none => .error .invalidIpv4Address
    else .ok (domain name)

/-- Characters that no host contains. -/
def isForbidden (c : Char) : Bool :=
  let forbidden :=
    ['\x00', '\t', '\n', '\r', ' ', '#', '/', ':', '<', '>', '?', '@', '[', '\\', ']', '^', '|']
  forbidden.contains c

/-- Reads the host of a URL whose scheme is not special. -/
def readVerbatim (text : List Char) : Except Failure Host :=
  if text.any isForbidden then .error .invalidDomainCharacter
  else .ok (domain (percentEncode EncodeSet.controls text))

/-- Reads a host. -/
def read (isSpecial : Bool) (text : List Char) : Except Failure Host :=
  match text with
  | '[' :: rest => readBracketed rest
  | _ => if isSpecial then readDomain text else readVerbatim text

end Host

end FeatureFlags.Url
