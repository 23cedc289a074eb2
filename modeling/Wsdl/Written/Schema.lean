-- Schemas, as far as a description needs them: which namespace a schema is
-- for, and the names that it declares.
import Wsdl.Violation.Basic
import Wsdl.Xml.Tree

namespace Wsdl.Written

/-- What a schema document declares. -/
structure SchemaDocument where
  targetNamespace : Option String
  /-- The names of its global elements. -/
  elements : List QName
  /-- The names of its global types. -/
  types : List QName
  deriving DecidableEq, Repr

namespace SchemaDocument

def declares (s : SchemaDocument) (q : QName) : Bool := s.elements.contains q

def defines (s : SchemaDocument) (q : QName) : Bool := s.types.contains q

/-- The names of the global declarations of some kinds. -/
def namesOf (root : Xml.Element) (kinds : List String) : List QName :=
  (((root.childrenIn schemaNamespace).filter (kinds.contains ·.localName)).filterMap
    (·.attribute? "name")).map fun n => ⟨root.attribute? "targetNamespace", n⟩

/-- What the schema with this root declares. -/
def ofElement (root : Xml.Element) : SchemaDocument where
  targetNamespace := root.attribute? "targetNamespace"
  elements := namesOf root ["element"]
  types := namesOf root ["complexType", "simpleType"]

end SchemaDocument

/-! ## Schemas of a description -/

/-- An import of a schema, with the schema if it was found. -/
structure ImportedSchema where
  space : Option String
  location : Option String
  document : Option SchemaDocument
  place : Locator
  deriving DecidableEq, Repr

/-- A schema that stands in the description. -/
structure InlineSchema where
  id : Option String
  document : SchemaDocument
  place : Locator
  deriving DecidableEq, Repr

/-- A schema that a description uses. -/
inductive Schema where
  | imported (s : ImportedSchema)
  | inline (s : InlineSchema)
  deriving DecidableEq, Repr

namespace Schema

/-- The namespace that the schema is for. -/
def targetNamespace : Schema → Option String
  | imported s => s.space
  | inline s => s.document.targetNamespace

/-- What the schema declares, if that is known. -/
def document? : Schema → Option SchemaDocument
  | imported s => s.document
  | inline s => some s.document

def imported? : Schema → Option ImportedSchema
  | imported s => some s
  | inline _ => none

def inline? : Schema → Option InlineSchema
  | imported _ => none
  | inline s => some s

end Schema

end Wsdl.Written
