-- Catalogs: where the resources are that identifiers name.
import Wsdl.Dictionary
import Wsdl.Iri.Parse

namespace Wsdl

/-- Identifiers of documents and names of resources, with the places they
lead to. -/
structure Catalog where
  systems : Dictionary
  uris : Dictionary
  deriving DecidableEq, Repr

namespace Catalog

def empty : Catalog := ⟨.empty, .empty⟩

instance : Inhabited Catalog := ⟨empty⟩

/-- The number of entries. -/
def size (c : Catalog) : Nat := c.systems.size + c.uris.size

def isEmpty (c : Catalog) : Bool := c.systems.isEmpty && c.uris.isEmpty

/-- Gives a name a place. -/
def addUri (c : Catalog) (name uri : String) : Catalog := { c with uris := c.uris.insert name uri }

/-- What an identifier leads to. Identifiers of documents come before
names. -/
def find? (c : Catalog) (identifier : String) : Option String :=
  (c.systems.find? identifier).or (c.uris.find? identifier)

/-- The entries of both. What the first catalog has stands. -/
def merge (c d : Catalog) : Catalog := ⟨c.systems.merge d.systems, c.uris.merge d.uris⟩

/-- Looks texts up before they are taken for IRIs. What is found is an IRI
or the path of a file. -/
def resolver (c : Catalog) : Resolver := fun s =>
  match c.find? s with
  | some mapped => (Iri.parse mapped).toOption.or (Iri.ofFilePath? (.ofText mapped))
  | none => Resolver.standard s

/-! ## Entries -/

/-- One entry. -/
inductive Entry where
  | system (id uri : String)
  | uri (name uri : String)
  deriving DecidableEq, Repr

/-- Adds an entry, in place of the one with its identifier. -/
def add (c : Catalog) : Entry → Catalog
  | .system id uri => { c with systems := c.systems.insert id uri }
  | .uri name uri => c.addUri name uri

/-- The catalog of some entries, later ones in place of earlier ones. -/
def ofEntries (es : List Entry) : Catalog := es.foldl add empty

end Catalog

end Wsdl
