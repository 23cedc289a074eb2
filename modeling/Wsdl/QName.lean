-- Expanded names: a local name and the namespace it is in, if any.

namespace Wsdl

/-! ## Well-known namespaces -/

def wsdlNamespace : String := "http://www.w3.org/ns/wsdl"

def schemaNamespace : String := "http://www.w3.org/2001/XMLSchema"

/-- The namespace that the prefix xml stands for. -/
def xmlNamespace : String := "http://www.w3.org/XML/1998/namespace"

/-! ## Expanded names -/

/-- A local name and the namespace it is in. The empty text is a
namespace of its own and not the same as none. -/
structure QName where
  space : Option String
  localName : String
  deriving DecidableEq, Repr, Inhabited

namespace QName

/-- The name as messages show it: the namespace in braces, then the local
name. -/
def text (q : QName) : String :=
  match q.space with
  | some ns => "\x7b" ++ ns ++ "\x7d" ++ q.localName
  | none => q.localName

/-- Whether the name is in a namespace. -/
def isIn (q : QName) (ns : String) : Bool := q.space == some ns

/-- Whether this is the name with that namespace and local name. -/
def isNamed (q : QName) (ns l : String) : Bool := q.isIn ns && q.localName == l

/-- The order of two namespaces, where none comes first. -/
def compareSpace : Option String → Option String → Ordering
  | none, none => .eq
  | none, some _ => .lt
  | some _, none => .gt
  | some a, some b => compare a b

/-- Names are ordered by namespace and then by local name. -/
def order (a b : QName) : Ordering :=
  (compareSpace a.space b.space).then (compare a.localName b.localName)

end QName

end Wsdl
