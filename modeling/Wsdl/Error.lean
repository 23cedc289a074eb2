-- The errors that reading and validating can end with, and their texts.
-- A violated assertion is not an error.
import Wsdl.File.System
import Wsdl.Iri.Host
import Wsdl.Limits
import Wsdl.NodeKind
import Wsdl.Scope
import Wsdl.Xml.Attribute
import Wsdl.Xml.Entity
import Wsdl.Xml.Markup
import Wsdl.Xml.Position

namespace Wsdl

/-! ## Causes -/

/-- Why a text is refused as a document. -/
inductive Xml.Fault where
  /-- Markup that cannot be read, and where the reader noticed. -/
  | markup (place : Xml.Position) (f : Xml.Markup.Fault)
  /-- The text ends inside an element. -/
  | unclosedElement
  | attribute (f : Xml.Attribute.Fault)
  | attributeValue (f : Xml.Entity.Fault)
  | text (f : Xml.Entity.Fault)
  deriving DecidableEq, Repr

def Xml.Fault.message : Xml.Fault → String
  | markup p f => "Error parsing XML at " ++ p.text ++ ": " ++ f.message
  | .unclosedElement => "Unexpected end of document"
  | .attribute f => "Failed to parse attribute: " ++ f.message
  | .attributeValue f => "Failed to unescape attribute value: " ++ f.message
  | .text f => "Failed to unescape text: " ++ f.message

/-- What is wrong with a document that is well-formed. -/
inductive ReadProblem where
  | noRoot
  | notDescription (found : QName)
  | missingAttribute (name : String)
  | notNCName (value : String)
  | secondTypes
  | emptyCatalog
  | notCatalog (found : String)
  deriving DecidableEq, Repr

def ReadProblem.message : ReadProblem → String
  | noRoot => "document has no root element"
  | notDescription found =>
    "expected " ++ QName.text ⟨some wsdlNamespace, "description"⟩ ++ ", found " ++ found.text
  | missingAttribute name => "missing required attribute '" ++ name ++ "'"
  | notNCName value => "'" ++ value ++ "' is not a valid NCName"
  | secondTypes => "more than one <types> element"
  | emptyCatalog => "Empty catalog document"
  | notCatalog found => "Expected catalog root element, got " ++ found

/-- Why a resource cannot be had. Locations are given as text. -/
inductive ResourceFault where
  | notFileUrl (url : String)
  | unreadable (path : String) (f : FileFault)
  | unreadableCatalog (path : String) (f : FileFault)
  | remoteForbidden (url : String)
  | remoteUnsupported (url : String)
  deriving DecidableEq, Repr

def ResourceFault.message : ResourceFault → String
  | notFileUrl url => "Invalid file URL: " ++ url
  | unreadable path f => "Failed to read file '" ++ path ++ "': " ++ f.message
  | unreadableCatalog path f => "Failed to read catalog '" ++ path ++ "': " ++ f.message
  | remoteForbidden url => "Remote resources are not allowed: " ++ url
  | remoteUnsupported url => "URL loading not supported: " ++ url

/-- Why a registry of assertions is refused. -/
inductive RegistryFault where
  | emptyId (k : NodeKind)
  | builtInId (id : String)
  | repeatedId (id : String) (k : NodeKind)
  deriving DecidableEq, Repr

def RegistryFault.message : RegistryFault → String
  | emptyId k => "assertion registered for " ++ k.text ++ " has an empty id"
  | builtInId id => "extension assertion '" ++ id ++ "' has the id of a built-in assertion"
  | repeatedId id k => "assertion '" ++ id ++ "' is registered twice for " ++ k.text

/-! ## Errors -/

/-- How reading or validating can end. -/
inductive Error where
  /-- A document that is no description or catalog, with the element in
  question and its place. -/
  | document (problem : ReadProblem) (element place : Option String)
  /-- An assertion was handed a node of another kind. -/
  | target (expected found : NodeKind)
  | registry (f : RegistryFault)
  | resource (f : ResourceFault)
  | scope (f : Scope.Fault)
  | name (f : NameFault)
  | limit (e : Excess)
  | xml (f : Xml.Fault)
  | iri (f : Iri.Fault)
  /-- An assertion gave up, with its own words. -/
  | refused (text : String)
  deriving DecidableEq, Repr

/-- The classes of errors, which start their messages. -/
inductive ErrorClass where
  | parse
  | type
  | registry
  | resource
  | scope
  | name
  | limit
  | io
  | xml
  | url
  | other
  deriving DecidableEq, Repr

namespace ErrorClass

/-- How the message of an error of the class starts. -/
def heading : ErrorClass → String
  | parse => "parse error: "
  | type => "type error: "
  | registry => "registry error: "
  | resource => "resource error: "
  | scope => "namespace error: "
  | name => "name error: "
  | limit => "limit exceeded: "
  | io => "I/O error: "
  | xml => "XML error: "
  | url => "URL error: "
  | other => ""

/-- The message of an error of the class. -/
def message (c : ErrorClass) (detail : String) : String := c.heading ++ detail

end ErrorClass

namespace Error

/-- A problem with the element and the place it is about. -/
def located (problem : String) (element place : Option String) : String :=
  problem
    ++ (match element with | some e => " (in <" ++ e ++ ">)" | none => "")
    ++ (match place with | some p => "\n\nLocation: " ++ p | none => "")

/-- The class of an error. -/
def errorClass : Error → ErrorClass
  | document .. => .parse
  | target .. => .type
  | registry _ => .registry
  | resource _ => .resource
  | scope _ => .scope
  | name _ => .name
  | limit _ => .limit
  | xml _ => .xml
  | iri _ => .url
  | refused _ => .other

/-- What is the matter, without the class. -/
def detail : Error → String
  | document problem element place => located problem.message element place
  | target expected found =>
    "expected a " ++ expected.text ++ " target, got a " ++ found.text ++ " target"
  | registry f => f.message
  | resource f => f.message
  | scope f => f.message
  | name f => f.message
  | limit e => e.message
  | xml f => f.message
  | iri f => f.message
  | refused text => text

def message (e : Error) : String := e.errorClass.message e.detail

end Error

/-! ## Results -/

section

variable {ε ε' α β : Type} {x : Except ε α}

theorem bind_eq_ok_iff {f : α → Except ε β} {b : β} :
    x >>= f = .ok b ↔ ∃ a, x = .ok a ∧ f a = .ok b := by
  cases x with
  | ok a =>
    constructor
    · exact fun h => ⟨a, rfl, h⟩
    · rintro ⟨_, ha, h⟩
      obtain rfl := Except.ok.inj ha
      exact h
  | error e =>
    constructor
    · intro h
      cases h
    · rintro ⟨_, ha, _⟩
      cases ha

theorem mapError_eq_ok_iff {f : ε → ε'} {a : α} : x.mapError f = .ok a ↔ x = .ok a := by
  cases x with
  | ok b => exact ⟨fun h => congrArg Except.ok (Except.ok.inj h), fun h => congrArg _ h⟩
  | error e =>
    constructor
    · intro h
      cases h
    · intro h
      cases h

end

end Wsdl
