-- Hosts: domain names and addresses. What can be wrong with them is among the faults
-- for which a text is refused as an IRI.
import Wsdl.Iri.Address
import Wsdl.Iri.Domain

namespace Wsdl.Iri

/-! ## Faults -/

/-- Why a text is refused as an IRI. -/
inductive Fault where
  /-- A host is needed and there is none. -/
  | emptyHost
  /-- A domain name with a character or label that is not allowed. -/
  | invalidDomain
  | invalidPort
  | invalidIpv4
  | invalidIpv6
  /-- A character that no host may have. -/
  | invalidHostCharacter
  /-- A relative reference, and nothing it is relative to. -/
  | relativeWithoutBase
  /-- A relative reference, and a base without a hierarchy. -/
  | relativeToOpaque
  deriving DecidableEq, Repr

def Fault.message : Fault → String
  | emptyHost => "empty host"
  | invalidDomain => "invalid international domain name"
  | invalidPort => "invalid port number"
  | invalidIpv4 => "invalid IPv4 address"
  | invalidIpv6 => "invalid IPv6 address"
  | invalidHostCharacter => "invalid domain character"
  | relativeWithoutBase => "relative URL without a base"
  | relativeToOpaque => "relative URL with a cannot-be-a-base base"

/-! ## Hosts -/

/-- A host. The name of an opaque host is escaped. -/
inductive Host where
  | name (text : List Char)
  | ipv4 (value : Nat)
  | ipv6 (groups : List Nat)
  deriving DecidableEq, Repr

namespace Host

def text : Host → List Char
  | name t => t
  | ipv4 n => Ipv4.text n
  | ipv6 gs => ['['] ++ Ipv6.text gs ++ [']']

/-- An address in brackets. -/
def ofBracketed (inside : List Char) : Except Fault Host :=
  if inside.getLast? == some ']' then
    match Ipv6.read? inside.dropLast with
    | some gs => .ok (ipv6 gs)
    | none => .error .invalidIpv6
  else .error .invalidIpv6

/-- The host of a scheme whose IRIs all have hosts: a domain name or an
address. -/
def ofDomain (cs : List Char) : Except Fault Host :=
  match cs with
  | '[' :: inside => ofBracketed inside
  | _ =>
    match Domain.toAscii? (Text.decodeLossy (unescape cs)) with
    | none => .error .invalidDomain
    | some [] => .error .emptyHost
    | some d =>
      if Ipv4.isMeant d then
        match Ipv4.read? d with
        | some n => .ok (ipv4 n)
        | none => .error .invalidIpv4
      else .ok (name d)

/-- The characters that no opaque host may hold. -/
def isForbidden (c : Char) : Bool := "\x00\t\n\r #/:<>?@[\\]^|".toList.contains c

/-- The host of any other scheme: text, or an address in brackets. -/
def ofOpaque (cs : List Char) : Except Fault Host :=
  match cs with
  | '[' :: inside => ofBracketed inside
  | _ =>
    if cs.any isForbidden then .error .invalidHostCharacter
    else .ok (name (escape controlSet cs))

end Host

end Wsdl.Iri
