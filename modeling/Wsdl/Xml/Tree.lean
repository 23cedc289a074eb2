-- The elements of a document, with the namespaces in force at each.
import Wsdl.Scope
import Wsdl.Xml.Position

namespace Wsdl.Xml

/-- An element: its expanded name, its attributes in document order, its
character data if it has any, and the elements in it. -/
structure Element where
  name : QName
  attributes : List (QName × String)
  text : Option String
  children : List Element
  /-- The namespace bindings in force, its own included. -/
  scope : Scope
  /-- Where the start tag begins. It is always there: elements come from tags that are read,
  and `Building.draft` sets it for each of them. -/
  position : Position
  deriving Repr, Inhabited

namespace Element

/-! ## Names and attributes -/

def localName (e : Element) : String := e.name.localName

/-- Whether this is an element with that expanded name. -/
def isNamed (e : Element) (ns l : String) : Bool := e.name.isNamed ns l

/-- The value of the attribute with that name and no namespace. -/
def attribute? (e : Element) (l : String) : Option String :=
  (e.attributes.find? fun a => a.1.space.isNone && a.1.localName == l).map (·.2)

/-- The name that the value of an attribute stands for. -/
def nameAttribute? (e : Element) (l : String) : Except Scope.Fault (Option QName) :=
  match e.attribute? l with
  | some v => (e.scope.resolve v).map some
  | none => .ok none

/-- The start tag in short: the local name, and the attribute called name
if there is one. -/
def describe (e : Element) : String :=
  match e.attribute? "name" with
  | some v => e.localName ++ " name=\"" ++ v ++ "\""
  | none => e.localName

/-! ## Children -/

/-- The children with a local name, in any namespace. -/
def childrenCalled (e : Element) (l : String) : List Element :=
  e.children.filter (·.localName == l)

/-- The children with an expanded name. -/
def childrenNamed (e : Element) (ns l : String) : List Element :=
  e.children.filter (·.isNamed ns l)

/-- The children in a namespace. -/
def childrenIn (e : Element) (ns : String) : List Element :=
  e.children.filter (·.name.isIn ns)

mutual

/-- The element and all below it in document order, each with its depth. -/
def preorder (depth : Nat) : Element → List (Nat × Element)
  | ⟨n, a, t, cs, s, p⟩ => (depth, ⟨n, a, t, cs, s, p⟩) :: preorderAll (depth + 1) cs

def preorderAll (depth : Nat) : List Element → List (Nat × Element)
  | [] => []
  | e :: es => preorder depth e ++ preorderAll depth es

end

mutual

/-- How many elements the longest way down goes through. -/
def height : Element → Nat
  | ⟨_, _, _, cs, _, _⟩ => heightAll cs + 1

def heightAll : List Element → Nat
  | [] => 0
  | e :: es => max (height e) (heightAll es)

end

end Element

end Wsdl.Xml
