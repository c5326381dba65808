import TableStore.Url.Domain
import TableStore.Url.Ipv4
import TableStore.Url.Ipv6
import TableStore.Url.Percent

/-!
# Hosts

A host is a name or an address. Where the scheme is not special, a name is kept as it is
written and may be empty. Where it is special, a name is a domain name in its form in
ASCII, and one that ends in a number must be an IPv4 address. Addresses in brackets are
IPv6 addresses under every scheme.

A text whose host cannot be read is no URL; the reasons for which a text is none are listed
here.
-/

namespace TableStore.Url

open Text

/-- Why a text is not an absolute URL. -/
inductive Fault where
  | relativeWithoutBase
  | emptyHost
  | invalidPort
  | invalidIpv4Address
  | invalidIpv6Address
  | invalidDomainCharacter
  | invalidInternationalName
deriving DecidableEq, Repr

/-- The description of a fault. -/
def Fault.message : Fault → String
  | .relativeWithoutBase => "relative URL without a base"
  | .emptyHost => "empty host"
  | .invalidPort => "invalid port number"
  | .invalidIpv4Address => "invalid IPv4 address"
  | .invalidIpv6Address => "invalid IPv6 address"
  | .invalidDomainCharacter => "invalid domain character"
  | .invalidInternationalName => "invalid international domain name"

/-- The host of a URL. -/
inductive Host where
  | name (text : List Char)
  | ipv4 (address : Ipv4)
  | ipv6 (address : Ipv6)
deriving DecidableEq

namespace Host

/-- The written form of a host. -/
def text : Host → List Char
  | .name text => text
  | .ipv4 address => address.text
  | .ipv6 address => '[' :: (address.text ++ [']'])

/-- Whether a host is the empty name. -/
def isEmpty (host : Host) : Bool :=
  host == .name []

/-- Whether no host may hold a character. -/
def isForbidden (c : Char) : Bool :=
  ['\x00', '\t', '\n', '\r', ' ', '#', '/', ':', '<', '>', '?', '@', '[', '\\', ']', '^',
    '|'].contains c

/-- The IPv6 address of a text after its opening bracket. -/
def ofBracketed (text : List Char) : Except Fault Host :=
  match text.getLast?, Ipv6.ofText? text.dropLast with
  | some ']', some address => .ok (.ipv6 address)
  | _, _ => .error .invalidIpv6Address

/-- The host under a scheme that is not special. -/
def ofText : List Char → Except Fault Host
  | '[' :: rest => ofBracketed rest
  | text =>
      if text.any isForbidden then .error .invalidDomainCharacter
      else .ok (.name (encode isControl text))

/-- The host under a special scheme. -/
def ofSpecialText : List Char → Except Fault Host
  | '[' :: rest => ofBracketed rest
  | text =>
      match Domain.ofText? (decodeUtf8 (decode text)) with
      | none => .error .invalidInternationalName
      | some [] => .error .emptyHost
      | some domain =>
          if Ipv4.isDemanded domain then
            match Ipv4.ofText? domain with
            | some address => .ok (.ipv4 address)
            | none => .error .invalidIpv4Address
          else .ok (.name domain)

end Host

end TableStore.Url
