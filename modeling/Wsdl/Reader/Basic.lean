-- Reading descriptions: from a document to its components, and to the
-- violations of what they are held to.
import Wsdl.Check.Table
import Wsdl.Component.Derive
import Wsdl.Reader.Imports
import Wsdl.Written.Read

namespace Wsdl

/-- How descriptions are read. -/
structure Reader where
  sources : Sources
  /-- Whether what is read is validated. -/
  validates : Bool
  /-- Assertions besides the built-in ones. -/
  registry : Check.Registry

/-- A description that was read. -/
structure Reading where
  /-- The base IRI of the document. -/
  base : Option String
  written : Written.Description
  description : Component.Description
  /-- The violations, if it was validated. -/
  violations : Option Log
  deriving DecidableEq, Repr

namespace Reading

/-- The summary of the violations, if it was validated. -/
def summary (r : Reading) : Option Summary := r.violations.map Summary.of

/-- A description is valid unless it was found not to be. -/
def isValid (r : Reading) : Bool := r.summary.all Summary.isValid

/-- The violations that are known. -/
def diagnostics (r : Reading) : Log := r.violations.getD []

end Reading

/-- The description whose root element this is, with the schemas that it
imports. -/
def Sources.ofRoot (s : Sources) (base : Option Iri) (root : Xml.Element) :
    Except Error Written.Description := do
  return s.complete base (← Written.ofElement (base.map (·.text)) root)

namespace Reader

/-- What names lead to: the catalog's resources, if there is one. -/
def resolver (r : Reader) : Resolver :=
  match r.sources.catalog with
  | some c => c.resolver
  | none => Resolver.standard

/-- Every violation of a description. -/
def validate (r : Reader) (w : Written.Description) (d : Component.Description) :
    Except Error Log := Check.validate r.registry r.resolver w d

/-- The description that a text writes. -/
def written (r : Reader) (base : Option Iri) (xml : String) : Except Error Written.Description := do
  match ← Xml.Document.parse r.sources.limits xml with
  | none => throw (.document .noRoot none none)
  | some root => r.sources.ofRoot base root

/-- Reads a description from a text. References in it are relative to the
base. -/
def readText (r : Reader) (base : Option Iri) (xml : String) : Except Error Reading := do
  let w ← r.written base xml
  let d := Component.derive w
  let violations ← if r.validates then (r.validate w d).map some else pure none
  return ⟨base.map (·.text), w, d, violations⟩

/-- Reads a description from a location. -/
def readAt (r : Reader) (l : Location) : Except Error Reading := do
  let xml ← l.load r.sources.files r.sources.limits r.sources.allowRemote
  r.readText (l.base? r.sources.files) xml

end Reader

end Wsdl
