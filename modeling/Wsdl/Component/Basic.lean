-- The components that a description stands for. Names are expanded, and
-- defaults are filled in. References to other components are names.
import Wsdl.Content
import Wsdl.Direction

namespace Wsdl.Component

/-! ## Interfaces -/

structure InterfaceFault where
  name : Option QName
  content : Content
  deriving DecidableEq, Repr

/-- A message of an operation. -/
structure InterfaceMessage where
  label : Option String
  direction : Option Direction
  content : Content
  deriving DecidableEq, Repr

/-- A fault that an operation can end with. -/
structure FaultReference where
  fault : Option QName
  label : Option String
  direction : Option Direction
  deriving DecidableEq, Repr

structure Operation where
  name : Option QName
  /-- The IRI of the message exchange pattern. -/
  pattern : Option String
  style : List String
  messages : List InterfaceMessage
  faults : List FaultReference
  deriving DecidableEq, Repr

structure Interface where
  name : Option QName
  /-- The interfaces that this one extends. -/
  extended : List QName
  styleDefault : List String
  faults : List InterfaceFault
  operations : List Operation
  deriving DecidableEq, Repr

/-! ## Bindings -/

structure BindingFault where
  fault : Option QName
  deriving DecidableEq, Repr

structure BindingMessage where
  label : Option String
  direction : Option Direction
  deriving DecidableEq, Repr

structure BindingOperation where
  /-- The operation that is bound. -/
  operation : Option QName
  messages : List BindingMessage
  faults : List FaultReference
  deriving DecidableEq, Repr

structure Binding where
  name : Option QName
  interface : Option QName
  /-- The IRI of the type of binding. -/
  type : Option String
  faults : List BindingFault
  operations : List BindingOperation
  deriving DecidableEq, Repr

/-! ## Services -/

structure Endpoint where
  name : Option String
  binding : Option QName
  address : Option String
  deriving DecidableEq, Repr

structure Service where
  name : Option QName
  interface : Option QName
  endpoints : List Endpoint
  deriving DecidableEq, Repr

/-! ## Descriptions -/

structure Description where
  targetNamespace : Option String
  interfaces : List Interface
  bindings : List Binding
  services : List Service
  /-- The elements that the schemas declare. -/
  elements : List QName
  /-- The types that the schemas define. -/
  types : List QName
  deriving DecidableEq, Repr

/-! ## Names in messages -/

/-- How messages call what has no name. -/
def anonymous : String := "(anonymous)"

def nameText : Option QName → String
  | some q => q.text
  | none => anonymous

def Interface.text (i : Interface) : String := nameText i.name

def Operation.text (o : Operation) : String := nameText o.name

def Binding.text (b : Binding) : String := nameText b.name

/-- A binding operation goes by the name of the operation that it binds. -/
def BindingOperation.text (o : BindingOperation) : String := nameText o.operation

def Service.text (s : Service) : String := nameText s.name

def Endpoint.text (e : Endpoint) : String := e.name.getD anonymous

/-! ## Names to components -/

namespace Description

/-- The first interface with a name. -/
def interface? (d : Description) (q : QName) : Option Interface :=
  d.interfaces.find? (·.name == some q)

/-- The first binding with a name. -/
def binding? (d : Description) (q : QName) : Option Binding :=
  d.bindings.find? (·.name == some q)

/-- The first service with a name. -/
def service? (d : Description) (q : QName) : Option Service :=
  d.services.find? (·.name == some q)

theorem mem_of_interface? {d : Description} {q : QName} {i : Interface}
    (h : d.interface? q = some i) : i ∈ d.interfaces := List.mem_of_find?_eq_some h

theorem name_of_interface? {d : Description} {q : QName} {i : Interface}
    (h : d.interface? q = some i) : i.name = some q := by simpa using List.find?_some h

end Description

end Wsdl.Component
