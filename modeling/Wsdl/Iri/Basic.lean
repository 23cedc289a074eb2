-- IRIs that have been read: their parts, brought to a usual form, and the
-- text that the parts make.
import Wsdl.Iri.Host

namespace Wsdl

/-! ## Schemes -/

namespace Iri

/-- How the IRIs of a scheme are built. -/
inductive SchemeKind where
  /-- Paths to files, perhaps on a host. -/
  | file
  /-- There is always a host. -/
  | special
  | plain
  deriving DecidableEq, Repr

/-- The schemes whose IRIs always have hosts, with the ports that are not
written. -/
def specialSchemes : List (String × Nat) :=
  [("http", 80), ("https", 443), ("ws", 80), ("wss", 443), ("ftp", 21)]

def defaultPort? (scheme : String) : Option Nat := specialSchemes.lookup scheme

def kindOf (scheme : String) : SchemeKind :=
  if scheme = "file" then .file
  else if (defaultPort? scheme).isSome then .special
  else .plain

/-! ## Parts -/

/-- Who names and where: what stands between two slashes and the path. -/
structure Authority where
  user : List Char
  password : List Char
  host : Option Host
  port : Option Nat
  deriving DecidableEq, Repr

namespace Authority

/-- The authority with nothing in it. -/
def empty : Authority := ⟨[], [], none, none⟩

def ofHost (h : Option Host) : Authority := { empty with host := h }

def text (a : Authority) : List Char :=
  let password := if a.password.isEmpty then [] else ':' :: a.password
  let credentials := a.user ++ password
  (if credentials.isEmpty then [] else credentials ++ ['@'])
    ++ (match a.host with | some h => h.text | none => [])
    ++ (match a.port with | some n => ':' :: (toString n).toList | none => [])

end Authority

end Iri

/-- An IRI: its scheme in lower case, and the other parts escaped. -/
structure Iri where
  scheme : String
  authority : Option Iri.Authority
  path : List Char
  query : Option (List Char)
  fragment : Option (List Char)
  deriving DecidableEq, Repr

namespace Iri

/-- The IRI up to its path. A path that would look like an authority is
kept apart by a dot. -/
def headText (i : Iri) : List Char :=
  i.scheme.toList ++ [':'] ++
    match i.authority with
    | some a => '/' :: '/' :: a.text
    | none => if ['/', '/'].isPrefixOf i.path then ['/', '.'] else []

/-- The IRI as text. -/
def text (i : Iri) : String :=
  String.ofList <|
    i.headText ++ i.path
      ++ (match i.query with | some q => '?' :: q | none => [])
      ++ (match i.fragment with | some f => '#' :: f | none => [])

/-- Whether the IRI is text after its scheme, without a hierarchy. -/
def isOpaque (i : Iri) : Bool := i.authority.isNone && i.path.head? != some '/'

/-- Whether references can be relative to the IRI. -/
def isHierarchical (i : Iri) : Bool := ! i.isOpaque

end Iri

end Wsdl
