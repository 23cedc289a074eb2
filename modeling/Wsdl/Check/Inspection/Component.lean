-- The inspection of components: one inspection for each assertion, and the
-- order in which they have their turn.
import Wsdl.Check.Component
import Wsdl.Check.Inspection.Basic

namespace Wsdl.Check

open Component

namespace Inspection

/-! ## Interfaces -/

/-- The first of the names that repeat is reported, and no other one. -/
def noRepeat (r : Rule) (names : List (Option QName)) : Inspection :=
  match firstDuplicate? names with
  | some q => expect false (r.violation [q.text])
  | none => idle

def interfaceNames (is : List Interface) : Inspection :=
  noRepeat .interfaceNameIsUnique (is.map (·.name))

def interfaceCycle (d : Description) (i : Interface) : Inspection :=
  expect (!d.extendsItself i) (Rule.interfaceIsAcyclic.violation [i.text])

def faultNames (i : Interface) : Inspection := expectNothing (Check.faultNames i)

def operationNames (i : Interface) : Inspection := expectNothing (Check.operationNames i)

def operationStyles (o : Operation) : Inspection :=
  each o.style fun s => expect (Iri.isAbsoluteText s) (Rule.styleIsAbsolute.violation [s, o.text])

def operationPattern (o : Operation) : Inspection :=
  expectText o.pattern Iri.isAbsoluteText fun p => Rule.patternIsAbsolute.violation [p, o.text]

def messageLabels (o : Operation) : Inspection := expectNothing (Check.messageLabels o)

def faultReferences (o : Operation) : Inspection := expectNothing (Check.faultReferences o)

def operation (o : Operation) : Inspection :=
  all [operationStyles o, operationPattern o, messageLabels o, faultReferences o]

def interface (d : Description) (i : Interface) : Inspection :=
  all [interfaceCycle d i, faultNames i, operationNames i, each i.operations operation]

def interfaces (d : Description) : Inspection :=
  all [interfaceNames d.interfaces, each d.interfaces (interface d)]

/-! ## Bindings -/

def bindingNames (bs : List Binding) : Inspection := expectNothing (Check.bindingNames bs)

def boundFaults (b : Binding) : Inspection :=
  expect (b.faults.isEmpty || b.interface.isSome)
    (Rule.boundFaultHasInterface.violation [b.text])

def bindingCompleteness (d : Description) (b : Binding) : Inspection :=
  match b.interfaceIn d with
  | none => idle
  | some i =>
    let bound := boundPlaces d b
    each (d.operationsOf i).zipIdx fun x =>
      expect (bound.contains x.2) (Rule.bindingIsComplete.violation [b.text, x.1.text])

def bindingType (b : Binding) : Inspection :=
  expectText b.type Iri.isAbsoluteText fun t => Rule.bindingTypeIsAbsolute.violation [t, b.text]

def boundOperationNames (b : Binding) : Inspection := expectNothing (Check.boundOperationNames b)

def boundMessageLabels (o : BindingOperation) : Inspection :=
  expectNothing (Check.boundMessageLabels o)

def boundFaultReferences (o : BindingOperation) : Inspection :=
  expectNothing (Check.boundFaultReferences o)

def boundFaultNames (b : Binding) : Inspection := expectNothing (Check.boundFaultNames b)

def boundOperation (o : BindingOperation) : Inspection :=
  all [boundMessageLabels o, boundFaultReferences o]

def binding (d : Description) (b : Binding) : Inspection :=
  all [boundFaults b, bindingCompleteness d b, bindingType b, boundOperationNames b,
    each b.operations boundOperation, boundFaultNames b]

def bindings (d : Description) : Inspection :=
  all [bindingNames d.bindings, each d.bindings (binding d)]

/-! ## Services -/

def serviceNames (ss : List Service) : Inspection :=
  noRepeat .serviceNameIsUnique (ss.map (·.name))

def endpointAddress (e : Endpoint) : Inspection :=
  expectText e.address Iri.isHierarchicalText fun a =>
    Rule.addressIsAbsolute.violation [a, e.text]

def endpointInterface (d : Description) (s : Service) (e : Endpoint) : Inspection :=
  match (e.bindingIn d).bind (·.interfaceIn d), s.interfaceIn d with
  | some bound, some implemented =>
    expect (bound == implemented)
      (Rule.endpointMatchesService.violation [e.text, bound.text, s.text, implemented.text])
  | _, _ => idle

def endpoint (d : Description) (s : Service) (e : Endpoint) : Inspection :=
  all [endpointAddress e, endpointInterface d s e]

def services (d : Description) : Inspection :=
  all [serviceNames d.services, each d.services fun s => each s.endpoints (endpoint d s)]

/-! ## The whole inspection -/

def references (d : Description) : Inspection := expectNothing (Check.references d)

def component (d : Description) : Inspection :=
  all [interfaces d, bindings d, services d, references d]

end Inspection

/-- Inspects the components of a description, adds the reports to a log, and
gives the summary of them. -/
def inspectComponents (d : Description) : StateM Log Summary := (Inspection.component d).summarize

end Wsdl.Check
