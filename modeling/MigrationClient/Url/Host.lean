import MigrationClient.Domain.Ascii
import MigrationClient.Url.Ipv4
import MigrationClient.Url.Ipv6
import MigrationClient.Url.Percent

/-!
# Hosts

The host of a URL: a domain name, an address of four bytes, or one of eight pieces in brackets.
In a URL of a known scheme a name is brought into the form that is looked up; in any other it is
only percent-encoded.
-/

namespace MigrationClient.Url

open Text

/-- Why a text is not a URL. -/
inductive ParseError where
  | relativeWithoutBase
  | emptyHost
  | invalidPort
  | invalidDomain
  | invalidIpv4
  | invalidIpv6
  | invalidDomainCharacter
  deriving DecidableEq, Repr

def ParseError.message : ParseError → String
  | relativeWithoutBase => "relative URL without a base"
  | emptyHost => "empty host"
  | invalidPort => "invalid port number"
  | invalidDomain => "invalid international domain name"
  | invalidIpv4 => "invalid IPv4 address"
  | invalidIpv6 => "invalid IPv6 address"
  | invalidDomainCharacter => "invalid domain character"

inductive Host where
  | domain (name : String)
  | ipv4 (address : Nat)
  | ipv6 (pieces : List Nat)
  deriving DecidableEq, Repr

namespace Host

def toText : Host → List Char
  | domain name => name.toList
  | ipv4 address => Ipv4.toText address
  | ipv6 pieces => '[' :: Ipv6.toText pieces ++ [']']

/-- Characters that no host may hold outside brackets. -/
def isForbidden (c : Char) : Bool :=
  c ∈ ['\x00', '\t', '\n', '\r', ' ', '#', '/', ':', '<', '>', '?', '@', '[', '\\', ']', '^', '|']

/-- Characters that no domain name may hold. -/
def isForbiddenInDomain (c : Char) : Bool :=
  isForbidden c || c.toNat < 0x20 || c = '%' || c.toNat = 0x7F

/-- The address in brackets. -/
def bracketed (s : List Char) : Except ParseError Host :=
  if s.length ≥ 2 ∧ s.getLast? = some ']' then
    match Ipv6.ofText? (s.drop 1).dropLast with
    | some pieces => .ok (ipv6 pieces)
    | none => .error .invalidIpv6
  else .error .invalidIpv6

/-- The host of a URL of a known scheme. -/
def special (s : List Char) : Except ParseError Host :=
  if s.head? = some '[' then bracketed s
  else
    match (Utf8.decode (Percent.decode s)).bind Domain.toAscii? with
    | none => .error .invalidDomain
    | some name =>
      if name.any isForbiddenInDomain then .error .invalidDomain
      else if name.isEmpty then .error .emptyHost
      else if Ipv4.endsInNumber name then
        match Ipv4.ofHost? name with
        | some a => .ok (ipv4 a)
        | none => .error .invalidIpv4
      else .ok (domain (String.ofList name))

/-- The host of a URL of another scheme; `none` if it is empty. -/
def other (s : List Char) : Except ParseError (Option Host) :=
  if s.isEmpty then .ok none
  else if s.head? = some '[' then (bracketed s).map some
  else if s.any isForbidden then .error .invalidDomainCharacter
  else .ok (some (domain (String.ofList (Percent.encode Percent.isControl s))))

end Host

end MigrationClient.Url
