import ClusterClient.Text.Percent
import ClusterClient.Url.Ipv6

namespace ClusterClient

/-- Why a text is no URL. -/
inductive UrlError where
  | relativeWithoutBase
  | emptyHost
  | invalidPort
  | invalidIpv4
  | invalidIpv6
  | invalidDomainName
  | invalidDomainCharacter
  deriving DecidableEq, Repr

def UrlError.message : UrlError → String
  | relativeWithoutBase => "relative URL without a base"
  | emptyHost => "empty host"
  | invalidPort => "invalid port number"
  | invalidIpv4 => "invalid IPv4 address"
  | invalidIpv6 => "invalid IPv6 address"
  | invalidDomainName => "invalid international domain name"
  | invalidDomainCharacter => "invalid domain character"

inductive Host where
  /-- A name in its ASCII form. -/
  | domain (name : String)
  | ipv4 (address : Nat)
  /-- Eight groups of sixteen bits. -/
  | ipv6 (groups : List Nat)
  deriving DecidableEq, Repr

/-- ASCII characters that no host name may hold: controls, blanks and the delimiters of a URL. -/
def Host.isForbidden (c : Char) : Bool :=
  c.toNat ≤ 0x20 || c.toNat = 0x7F || "%#/:<>?@[\\]^|".toList.contains c

/-- How the names of hosts become ASCII: the mapping, normalisation and checks of internationalised
names, which go by tables outside this library. A name that no host may have has no ASCII form. -/
class HostNames where
  toAscii? : String → Option String

/-- What may be relied on whatever the tables behind the forms of names. -/
class HostNames.IsLawful [HostNames] : Prop where
  /-- A form is ASCII and holds nothing that is forbidden in hosts. -/
  allowed : ∀ {name ascii : String}, toAscii? name = some ascii →
    ∀ c ∈ ascii.toList, c.toNat < 128 ∧ Host.isForbidden c = false
  /-- A form is its own form. -/
  again : ∀ {name ascii : String}, toAscii? name = some ascii → toAscii? ascii = some ascii
  /-- Digits and dots stand for themselves. -/
  digits : ∀ {name : String}, (∀ c ∈ name.toList, c.isDigit = true ∨ c = '.') →
    toAscii? name = some name

namespace Host

def text : Host → String
  | domain name => name
  | ipv4 address => Ipv4.text address
  | ipv6 groups => "[" ++ Ipv6.text groups ++ "]"

/-- An address in square brackets. -/
def ofBrackets (chars : List Char) : Except UrlError Host :=
  if chars.getLast? = some ']' then
    match Ipv6.ofText? chars.tail.dropLast with
    | some groups => .ok (ipv6 groups)
    | none => .error .invalidIpv6
  else .error .invalidIpv6

/-- The host of a scheme that has hosts: an address, or a name after percent decoding. -/
def ofText [HostNames] (chars : List Char) : Except UrlError Host :=
  if chars.head? = some '[' then ofBrackets chars
  else match (Percent.decode? (String.ofList chars)).bind HostNames.toAscii? with
    | none => .error .invalidDomainName
    | some name =>
      if name = "" then .error .emptyHost
      else if Ipv4.endsInNumber name.toList then
        match Ipv4.ofName? name.toList with
        | some address => .ok (ipv4 address)
        | none => .error .invalidIpv4
      else .ok (domain name)

/-- Whether a text may stand as the host of a scheme this library knows nothing about. -/
def checkOpaque (chars : List Char) : Except UrlError Unit :=
  if chars.head? = some '[' then (ofBrackets chars).map fun _ => ()
  else if chars.any ("\x00\t\n\r #/:<>?@[\\]^|".toList.contains ·) then
    .error .invalidDomainCharacter
  else .ok ()

end Host

end ClusterClient
