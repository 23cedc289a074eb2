-- Finding the schemas that a description imports. A schema that cannot be
-- had is left out; so are those over the limit.
import Wsdl.Catalog.Basic
import Wsdl.Location
import Wsdl.Written.Basic
import Wsdl.Xml.Document

namespace Wsdl

/-- How documents are found and read. -/
structure Sources where
  files : FileSystem
  limits : Limits
  /-- Whether documents from elsewhere may be asked for. -/
  allowRemote : Bool
  catalog : Option Catalog

namespace Sources

/-- Where an import leads: what the catalog has for its location or its
namespace, or else the location as written. -/
def reference? (s : Sources) (ns location : Option String) : Option String :=
  let mapped := s.catalog.bind fun c => (location.bind c.find?).or (ns.bind c.find?)
  mapped.or location

/-- The location of the schema that a document with the given base
imports. -/
def location? (s : Sources) (base : Option Iri) (ns location : Option String) :
    Option Location := do (Location.resolve base (← s.reference? ns location)).toOption

/-- The root element of the document at a location. -/
def root? (s : Sources) (l : Location) : Except Error (Option Xml.Element) := do
  Xml.Document.parse s.limits (← l.load s.files s.limits s.allowRemote)

/-- The schema that a document with the given base imports, if it is
there. -/
def schema? (s : Sources) (base : Option Iri) (ns location : Option String) :
    Option Written.SchemaDocument := do
  let root ← (s.root? (← s.location? base ns location)).toOption.join
  if root.isNamed schemaNamespace "schema" then some (.ofElement root) else none

/-! ## All imports of a description -/

/-- Puts the schemas that are found into the imports. `count` of them were
found before; once that is the limit, no more are looked for. -/
def attach (limits : Limits)
    (find? : Option String → Option String → Option Written.SchemaDocument) (count : Nat) :
    List Written.Schema → List Written.Schema
  | [] => []
  | .inline i :: rest => .inline i :: attach limits find? count rest
  | .imported i :: rest =>
    let document :=
      match limits.check .schemaImports (count + 1) with
      | .ok _ => find? i.space i.location
      | .error _ => none
    .imported { i with document := document }
      :: attach limits find? (if document.isSome then count + 1 else count) rest

/-- The description with the schemas that it imports. -/
def complete (s : Sources) (base : Option Iri) (w : Written.Description) : Written.Description :=
  { w with
    types := w.types.map fun t =>
      { t with schemas := attach s.limits (s.schema? base) 0 t.schemas } }

/-- The paths of the documents that the imports of a description lead to. -/
def importedPaths (s : Sources) (base : Option Iri) (w : Written.Description) : List FilePath :=
  (w.types.toList.flatMap (·.imported)).filterMap fun i =>
    (s.location? base i.space i.location).bind Location.path?

end Sources

end Wsdl
