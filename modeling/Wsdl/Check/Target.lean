-- What assertions of the table run on: a node of the written description
-- or of the components, with the parent it was reached through.
import Wsdl.Component.Basic
import Wsdl.Error
import Wsdl.Written.Basic

namespace Wsdl.Check

/-- A node of a walk. What stands in something else comes with it. -/
inductive Node where
  | descriptionElement (w : Written.Description)
  | description (d : Component.Description)
  | interface (i : Component.Interface)
  | binding (b : Component.Binding)
  | bindingFault (b : Component.Binding) (f : Component.BindingFault)
  | bindingOperation (b : Component.Binding) (o : Component.BindingOperation)
  | bindingMessage (o : Component.BindingOperation) (m : Component.BindingMessage)
  | bindingFaultReference (o : Component.BindingOperation) (f : Component.FaultReference)
  | service (s : Component.Service)
  | endpoint (s : Component.Service) (e : Component.Endpoint)
  deriving DecidableEq, Repr

def Node.kind : Node → NodeKind
  | descriptionElement _ => .descriptionElement
  | description _ => .description
  | interface _ => .interface
  | binding _ => .binding
  | bindingFault .. => .bindingFault
  | bindingOperation .. => .bindingOperation
  | bindingMessage .. => .bindingMessageReference
  | bindingFaultReference .. => .bindingFaultReference
  | service _ => .service
  | endpoint .. => .endpoint

/-- A node and the description that it belongs to. -/
structure Target where
  description : Component.Description
  node : Node
  deriving DecidableEq, Repr

namespace Target

def kind (t : Target) : NodeKind := t.node.kind

/-- A node of another kind was expected. -/
def mismatch (t : Target) (expected : NodeKind) : Error := .target expected t.kind

def asDescriptionElement (t : Target) : Except Error Written.Description :=
  match t.node with
  | .descriptionElement w => .ok w
  | _ => .error (t.mismatch .descriptionElement)

def asDescription (t : Target) : Except Error Component.Description :=
  match t.node with
  | .description d => .ok d
  | _ => .error (t.mismatch .description)

def asInterface (t : Target) : Except Error Component.Interface :=
  match t.node with
  | .interface i => .ok i
  | _ => .error (t.mismatch .interface)

def asBinding (t : Target) : Except Error Component.Binding :=
  match t.node with
  | .binding b => .ok b
  | _ => .error (t.mismatch .binding)

def asBindingFault (t : Target) : Except Error (Component.Binding × Component.BindingFault) :=
  match t.node with
  | .bindingFault b f => .ok (b, f)
  | _ => .error (t.mismatch .bindingFault)

def asBindingOperation (t : Target) :
    Except Error (Component.Binding × Component.BindingOperation) :=
  match t.node with
  | .bindingOperation b o => .ok (b, o)
  | _ => .error (t.mismatch .bindingOperation)

def asBindingMessage (t : Target) :
    Except Error (Component.BindingOperation × Component.BindingMessage) :=
  match t.node with
  | .bindingMessage o m => .ok (o, m)
  | _ => .error (t.mismatch .bindingMessageReference)

def asBindingFaultReference (t : Target) :
    Except Error (Component.BindingOperation × Component.FaultReference) :=
  match t.node with
  | .bindingFaultReference o f => .ok (o, f)
  | _ => .error (t.mismatch .bindingFaultReference)

def asService (t : Target) : Except Error Component.Service :=
  match t.node with
  | .service s => .ok s
  | _ => .error (t.mismatch .service)

def asEndpoint (t : Target) : Except Error (Component.Service × Component.Endpoint) :=
  match t.node with
  | .endpoint s e => .ok (s, e)
  | _ => .error (t.mismatch .endpoint)

end Target

end Wsdl.Check
