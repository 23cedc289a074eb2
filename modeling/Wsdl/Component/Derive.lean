-- The components that a written description stands for. Names are put into
-- the target namespace, and patterns, styles, labels and contents that are
-- left out get their defaults.
import Wsdl.Component.Inheritance
import Wsdl.Written.Basic

namespace Wsdl.Component

open Written (Description.qualify)

variable (w : Written.Description)

/-! ## Interfaces -/

/-- The label of a message: the one written, or the one that the pattern
gives to a message of its direction. -/
def messageLabel (p : Option Pattern) (d : Direction) (written : Option String) : Option String :=
  written.or (p.bind (·.messageLabel d))

/-- The label of a fault reference: the one written, or the one that the
pattern gives to a fault of its direction. -/
def faultLabel (p : Option Pattern) (d : Direction) (written : Option String) : Option String :=
  written.or (p.bind (·.faultLabel d))

def deriveMessage (p : Option Pattern) (m : Written.Message) : InterfaceMessage :=
  ⟨messageLabel p m.direction m.label, some m.direction, m.content.getD default⟩

def deriveFaultReference (p : Option Pattern) (f : Written.FaultReference) : FaultReference :=
  ⟨f.fault, faultLabel p f.direction f.label, some f.direction⟩

/-- An operation without a style has that of its interface. -/
def deriveOperation (styleDefault : List String) (o : Written.Operation) : Operation :=
  let p := Pattern.find? o.patternIri
  { name := o.name.map w.qualify
    pattern := some o.patternIri
    style := if o.style.isEmpty then styleDefault else o.style
    messages := o.messages.map (deriveMessage p)
    faults := o.faults.map (deriveFaultReference p) }

def deriveInterfaceFault (f : Written.InterfaceFault) : InterfaceFault :=
  ⟨f.name.map w.qualify, f.content.getD default⟩

def deriveInterface (i : Written.Interface) : Interface where
  name := i.name.map w.qualify
  extended := i.extended
  styleDefault := i.styleDefault
  faults := i.faults.map (deriveInterfaceFault w)
  operations := i.operations.map (deriveOperation w i.styleDefault)

/-! ## Bindings -/

/-- The pattern of the operation that a name stands for in an interface,
if it is a predefined one. -/
def patternOf (d : Description) (i : Option Interface) (q : Option QName) : Option Pattern :=
  (((i.bind fun i => q.bind (d.operation? i)).bind (·.pattern))).bind Pattern.find?

def deriveBindingMessage (p : Option Pattern) (m : Written.BindingMessage) : BindingMessage :=
  ⟨messageLabel p m.direction m.label, some m.direction⟩

def deriveBindingFaultReference (p : Option Pattern) (f : Written.BindingFaultReference) :
    FaultReference :=
  ⟨f.fault, faultLabel p f.direction f.label, some f.direction⟩

/-- A binding operation takes the labels that are left out from the pattern
of the operation that it binds. -/
def deriveBindingOperation (d : Description) (i : Option Interface)
    (o : Written.BindingOperation) : BindingOperation :=
  let p := patternOf d i o.operation
  { operation := o.operation
    messages := o.messages.map (deriveBindingMessage p)
    faults := o.faults.map (deriveBindingFaultReference p) }

/-- The binding, where `d` has the interfaces of the description. -/
def deriveBinding (d : Description) (b : Written.Binding) : Binding where
  name := b.name.map w.qualify
  interface := b.interface
  type := b.type
  faults := b.faults.map fun f => ⟨f.fault⟩
  operations := b.operations.map (deriveBindingOperation d (b.interface.bind d.interface?))

/-! ## Services -/

def deriveEndpoint (e : Written.Endpoint) : Endpoint := ⟨e.name, e.binding, e.address⟩

def deriveService (s : Written.Service) : Service where
  name := s.name.map w.qualify
  interface := s.interface
  endpoints := s.endpoints.map deriveEndpoint

/-! ## Descriptions -/

/-- The schemas of the description, those that were found. -/
def schemaDocuments : List Written.SchemaDocument := w.schemas.filterMap Written.Schema.document?

/-- The description with its interfaces and nothing that refers to them. -/
def interfacePart : Description where
  targetNamespace := w.targetNamespace
  interfaces := w.interfaces.map (deriveInterface w)
  bindings := []
  services := []
  elements := (schemaDocuments w).flatMap (·.elements)
  types := (schemaDocuments w).flatMap (·.types)

/-- The components of a written description. Bindings are derived once the
interfaces are there. -/
def derive : Description :=
  { interfacePart w with
    bindings := w.bindings.map (deriveBinding w (interfacePart w))
    services := w.services.map (deriveService w) }

end Wsdl.Component
