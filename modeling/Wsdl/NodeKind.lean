-- The kinds of node that assertions can be registered for.

namespace Wsdl

/-- A kind of node: the description element, or a kind of component. -/
inductive NodeKind where
  | descriptionElement
  | description
  | interface
  | binding
  | bindingFault
  | bindingOperation
  | bindingMessageReference
  | bindingFaultReference
  | service
  | endpoint
  deriving DecidableEq, Repr

namespace NodeKind

/-- Every kind, in the order in which a walk first meets them. -/
def all : List NodeKind :=
  [descriptionElement, description, interface, binding, bindingFault, bindingOperation,
   bindingMessageReference, bindingFaultReference, service, endpoint]

theorem mem_all (k : NodeKind) : k ∈ all := by cases k <;> decide

def text : NodeKind → String
  | descriptionElement => "DescriptionElement"
  | description => "Description"
  | interface => "Interface"
  | binding => "Binding"
  | bindingFault => "BindingFault"
  | bindingOperation => "BindingOperation"
  | bindingMessageReference => "BindingMessageReference"
  | bindingFaultReference => "BindingFaultReference"
  | service => "Service"
  | endpoint => "Endpoint"

end NodeKind

end Wsdl
