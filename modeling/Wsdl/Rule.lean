-- The assertions a description is held to. Each has an id, under which a
-- violation is reported.

namespace Wsdl

/-! ## The rules -/

/-- The assertions of the language. -/
inductive Rule where
  /-- The target namespace is an absolute IRI. -/
  | namespaceIsAbsolute
  /-- The target namespace can be retrieved. -/
  | namespaceIsRetrievable
  /-- The target namespace, as the document writes it, is an absolute IRI. -/
  | writtenNamespaceIsAbsolute
  /-- An import does not name the namespace of its own document. -/
  | importIsForeign
  /-- An interface does not extend itself, directly or not. -/
  | interfaceIsAcyclic
  /-- Interface names are unique. -/
  | interfaceNameIsUnique
  /-- Every default style is an absolute IRI. -/
  | defaultStyleIsAbsolute
  /-- A message exchange pattern is an absolute IRI. -/
  | patternIsAbsolute
  /-- Operation names are unique in an interface. -/
  | operationNameIsUnique
  /-- Every style of an operation is an absolute IRI. -/
  | styleIsAbsolute
  /-- Fault names are unique in an interface. -/
  | faultNameIsUnique
  /-- Message labels are unique in an operation. -/
  | messageLabelIsUnique
  /-- A message label is one of the pattern's placeholders. -/
  | messageLabelIsKnown
  /-- The label of a fault reference is one of the pattern's placeholders. -/
  | faultLabelIsKnown
  /-- No two fault references share fault and label. -/
  | faultReferenceIsUnique
  /-- A binding with faults has an interface. -/
  | boundFaultHasInterface
  /-- Every operation of the bound interface is bound. -/
  | bindingIsComplete
  /-- The type of a binding is an absolute IRI. -/
  | bindingTypeIsAbsolute
  /-- Binding names are unique. -/
  | bindingNameIsUnique
  /-- A fault is bound once. -/
  | faultIsBoundOnce
  /-- An operation is bound once. -/
  | operationIsBoundOnce
  /-- Message labels are unique in a binding operation. -/
  | boundMessageLabelIsUnique
  /-- No two binding fault references share fault and label. -/
  | boundFaultReferenceIsUnique
  /-- Service names are unique. -/
  | serviceNameIsUnique
  /-- The address of an endpoint is an absolute IRI. -/
  | addressIsAbsolute
  /-- The binding of an endpoint is for the interface of its service. -/
  | endpointMatchesService
  /-- Every reference names a component. -/
  | referenceResolves
  /-- An element reference names a schema of the types element. -/
  | elementIsAvailable
  /-- An imported schema has a target namespace. -/
  | importedSchemaHasNamespace
  /-- An imported schema has the namespace it is imported for. -/
  | importedSchemaMatches
  /-- An element is declared in one inlined schema. -/
  | elementIsDeclaredOnce
  /-- A type is defined in one inlined schema. -/
  | typeIsDefinedOnce
  deriving DecidableEq, Repr

namespace Rule

/-- The rules in the order of the message catalog. -/
def all : List Rule :=
  [namespaceIsAbsolute, namespaceIsRetrievable, writtenNamespaceIsAbsolute, importIsForeign,
   interfaceIsAcyclic, interfaceNameIsUnique, defaultStyleIsAbsolute, patternIsAbsolute,
   operationNameIsUnique, styleIsAbsolute, faultNameIsUnique, messageLabelIsUnique,
   messageLabelIsKnown, faultLabelIsKnown, faultReferenceIsUnique, boundFaultHasInterface,
   bindingIsComplete, bindingTypeIsAbsolute, bindingNameIsUnique, faultIsBoundOnce,
   operationIsBoundOnce, boundMessageLabelIsUnique, boundFaultReferenceIsUnique,
   serviceNameIsUnique, addressIsAbsolute, endpointMatchesService, referenceResolves,
   elementIsAvailable, importedSchemaHasNamespace, importedSchemaMatches,
   elementIsDeclaredOnce, typeIsDefinedOnce]

theorem mem_all (r : Rule) : r ∈ all := by cases r <;> decide

/-- The id under which a violation is reported. -/
def id : Rule → String
  | namespaceIsAbsolute => "Description-1001"
  | namespaceIsRetrievable => "Description-1002"
  | writtenNamespaceIsAbsolute => "Description-1006"
  | importIsForeign => "Description-1013"
  | interfaceIsAcyclic => "Interface-1009"
  | interfaceNameIsUnique => "Interface-1010"
  | defaultStyleIsAbsolute => "Interface-1011"
  | patternIsAbsolute => "MEP-1022"
  | operationNameIsUnique => "InterfaceOperation-1026"
  | styleIsAbsolute => "InterfaceOperation-1027"
  | faultNameIsUnique => "InterfaceFault-1028"
  | messageLabelIsUnique => "InterfaceMessageReference-1029"
  | messageLabelIsKnown => "MessageLabel-1034"
  | faultLabelIsKnown => "MessageLabel-1035"
  | faultReferenceIsUnique => "InterfaceFaultReference-1039"
  | boundFaultHasInterface => "Binding-1044"
  | bindingIsComplete => "Binding-1045"
  | bindingTypeIsAbsolute => "Binding-1048"
  | bindingNameIsUnique => "Binding-1049"
  | faultIsBoundOnce => "BindingFault-1050"
  | operationIsBoundOnce => "BindingOperation-1051"
  | boundMessageLabelIsUnique => "BindingMessageReference-1052"
  | boundFaultReferenceIsUnique => "BindingFaultReference-1055"
  | serviceNameIsUnique => "Service-1060"
  | addressIsAbsolute => "Endpoint-1061"
  | endpointMatchesService => "Endpoint-1062"
  | referenceResolves => "QName-resolution-1064"
  | elementIsAvailable => "Schema-1066"
  | importedSchemaHasNamespace => "Schema-1069"
  | importedSchemaMatches => "Schema-1070"
  | elementIsDeclaredOnce => "Schema-1073"
  | typeIsDefinedOnce => "Schema-1073b"

end Rule

end Wsdl
