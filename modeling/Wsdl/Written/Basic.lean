-- Descriptions as documents write them: what each element says and where
-- it stands, with nothing filled in.
import Wsdl.Content
import Wsdl.Direction
import Wsdl.Written.Schema

namespace Wsdl.Written

/-! ## Imports and types -/

structure Import where
  space : Option String
  location : Option String
  place : Locator
  deriving DecidableEq, Repr

structure Include where
  location : Option String
  place : Locator
  deriving DecidableEq, Repr

structure Types where
  schemas : List Schema
  place : Locator
  deriving DecidableEq, Repr

namespace Types

def imported (t : Types) : List ImportedSchema := t.schemas.filterMap Schema.imported?

def inline (t : Types) : List InlineSchema := t.schemas.filterMap Schema.inline?

end Types

/-! ## Interfaces -/

structure InterfaceFault where
  name : Option String
  content : Option Content
  place : Locator
  deriving DecidableEq, Repr

/-- A message of an operation. -/
structure Message where
  direction : Direction
  label : Option String
  content : Option Content
  place : Locator
  deriving DecidableEq, Repr

/-- A fault of an operation. -/
structure FaultReference where
  direction : Direction
  fault : Option QName
  label : Option String
  place : Locator
  deriving DecidableEq, Repr

/-- An operation as it is written. When it is read the lists hold what goes in one
direction; what is derived from it goes by the direction that each part says. -/
structure Operation where
  name : Option String
  pattern : Option String
  style : List String
  inputs : List Message
  outputs : List Message
  infaults : List FaultReference
  outfaults : List FaultReference
  place : Locator
  deriving DecidableEq, Repr

namespace Operation

/-- The messages, the inputs first. -/
def messages (o : Operation) : List Message := o.inputs ++ o.outputs

/-- The fault references, the inward ones first. -/
def faults (o : Operation) : List FaultReference := o.infaults ++ o.outfaults

/-- The IRI of the pattern; an operation that names none has the
default. -/
def patternIri (o : Operation) : String := o.pattern.getD Pattern.defaultIri

end Operation

structure Interface where
  name : Option String
  extended : List QName
  styleDefault : List String
  faults : List InterfaceFault
  operations : List Operation
  place : Locator
  deriving DecidableEq, Repr

/-! ## Bindings -/

structure BindingFault where
  fault : Option QName
  place : Locator
  deriving DecidableEq, Repr

structure BindingMessage where
  direction : Direction
  label : Option String
  place : Locator
  deriving DecidableEq, Repr

structure BindingFaultReference where
  direction : Direction
  fault : Option QName
  label : Option String
  place : Locator
  deriving DecidableEq, Repr

structure BindingOperation where
  operation : Option QName
  messages : List BindingMessage
  faults : List BindingFaultReference
  place : Locator
  deriving DecidableEq, Repr

structure Binding where
  name : Option String
  interface : Option QName
  type : Option String
  faults : List BindingFault
  operations : List BindingOperation
  place : Locator
  deriving DecidableEq, Repr

/-! ## Services -/

structure Endpoint where
  name : Option String
  binding : Option QName
  address : Option String
  place : Locator
  deriving DecidableEq, Repr

structure Service where
  name : Option String
  interface : Option QName
  endpoints : List Endpoint
  place : Locator
  deriving DecidableEq, Repr

/-! ## Descriptions -/

structure Description where
  /-- The base IRI of the document. -/
  base : Option String
  targetNamespace : Option String
  imports : List Import
  includes : List Include
  types : Option Types
  interfaces : List Interface
  bindings : List Binding
  services : List Service
  place : Locator
  deriving DecidableEq, Repr

namespace Description

/-- A local name in the target namespace. -/
def qualify (d : Description) (l : String) : QName := ⟨d.targetNamespace, l⟩

/-- The schemas of the description. -/
def schemas (d : Description) : List Schema :=
  match d.types with
  | some t => t.schemas
  | none => []

end Description

end Wsdl.Written
