-- The assertions on components. Each is a list of the violations that it
-- finds, and holds where the list is empty. The whole check is the lists
-- one after the other.
import Wsdl.Check.Duplicates
import Wsdl.Component.Inheritance
import Wsdl.Iri.Parse
import Wsdl.Violation.Basic

namespace Wsdl.Check

open Component

/-! ## Shapes of assertions -/

/-- One violation where the condition is true. -/
def violatedIf (c : Bool) (r : Rule) (args : List String) : List Violation :=
  if c then [r.violation args] else []

theorem violatedIf_eq_nil_iff {c : Bool} {r : Rule} {args : List String} :
    violatedIf c r args = [] ↔ c = false := by
  simp [violatedIf]

/-- A violation for the first name that repeats an earlier one. -/
def firstRepeat (r : Rule) (names : List (Option QName)) : List Violation :=
  (firstDuplicate? names).toList.map fun q => r.violation [q.text]

/-- A violation for every name that repeats an earlier one. `owner` is
where the names are, if they are in something. -/
def repeatedNames (r : Rule) (owner : List String) (names : List (Option QName)) :
    List Violation :=
  (duplicates names).map fun q => r.violation (q.text :: owner)

/-- A violation for every label that repeats an earlier one. -/
def repeatedLabels (r : Rule) (owner : String) (labels : List (Option String)) :
    List Violation :=
  (duplicates labels).map fun l => r.violation [l, owner]

/-- A violation for every fault reference that repeats an earlier one in
fault and label. -/
def repeatedFaults (r : Rule) (owner : String) (faults : List FaultReference) : List Violation :=
  (duplicatePairs (faults.map fun f => (f.fault, f.label))).map fun (q, l) =>
    r.violation [q.text, l, owner]

/-! ## Interfaces -/

def interfaceNames (is : List Interface) : List Violation :=
  firstRepeat .interfaceNameIsUnique (is.map (·.name))

def interfaceCycle (d : Description) (i : Interface) : List Violation :=
  violatedIf (d.extendsItself i) .interfaceIsAcyclic [i.text]

def faultNames (i : Interface) : List Violation :=
  repeatedNames .faultNameIsUnique [i.text] (i.faults.map (·.name))

def operationNames (i : Interface) : List Violation :=
  repeatedNames .operationNameIsUnique [i.text] (i.operations.map (·.name))

def operationStyles (o : Operation) : List Violation :=
  (o.style.filter (! Iri.isAbsoluteText ·)).map fun s => Rule.styleIsAbsolute.violation [s, o.text]

def operationPattern (o : Operation) : List Violation :=
  (o.pattern.toList.filter (! Iri.isAbsoluteText ·)).map fun p =>
    Rule.patternIsAbsolute.violation [p, o.text]

def messageLabels (o : Operation) : List Violation :=
  repeatedLabels .messageLabelIsUnique o.text (o.messages.map (·.label))

def faultReferences (o : Operation) : List Violation :=
  repeatedFaults .faultReferenceIsUnique o.text o.faults

def operationChecks (o : Operation) : List Violation :=
  operationStyles o ++ operationPattern o ++ messageLabels o ++ faultReferences o

def interfaceChecks (d : Description) (i : Interface) : List Violation :=
  interfaceCycle d i ++ faultNames i ++ operationNames i ++ i.operations.flatMap operationChecks

/-! ## Bindings -/

def bindingNames (bs : List Binding) : List Violation :=
  repeatedNames .bindingNameIsUnique [] (bs.map (·.name))

def boundFaults (b : Binding) : List Violation :=
  violatedIf (!b.faults.isEmpty && b.interface.isNone) .boundFaultHasInterface [b.text]

/-- The places of the operations that the binding binds, among those of
its interface. -/
def boundPlaces (d : Description) (b : Binding) : List Nat :=
  b.operations.filterMap (·.indexIn b d)

/-- Every operation of the interface is bound, those that another one of
the same name hides not excepted. -/
def bindingCompleteness (d : Description) (b : Binding) : List Violation :=
  match b.interfaceIn d with
  | none => []
  | some i =>
    ((d.operationsOf i).zipIdx.filter fun x => !(boundPlaces d b).contains x.2).map fun x =>
      Rule.bindingIsComplete.violation [b.text, x.1.text]

def bindingType (b : Binding) : List Violation :=
  (b.type.toList.filter (! Iri.isAbsoluteText ·)).map fun t =>
    Rule.bindingTypeIsAbsolute.violation [t, b.text]

def boundOperationNames (b : Binding) : List Violation :=
  repeatedNames .operationIsBoundOnce [b.text] (b.operations.map (·.operation))

def boundMessageLabels (o : BindingOperation) : List Violation :=
  repeatedLabels .boundMessageLabelIsUnique o.text (o.messages.map (·.label))

def boundFaultReferences (o : BindingOperation) : List Violation :=
  repeatedFaults .boundFaultReferenceIsUnique o.text o.faults

def boundFaultNames (b : Binding) : List Violation :=
  repeatedNames .faultIsBoundOnce [b.text] (b.faults.map (·.fault))

def boundOperationChecks (o : BindingOperation) : List Violation :=
  boundMessageLabels o ++ boundFaultReferences o

def bindingChecks (d : Description) (b : Binding) : List Violation :=
  boundFaults b ++ bindingCompleteness d b ++ bindingType b ++ boundOperationNames b
    ++ b.operations.flatMap boundOperationChecks ++ boundFaultNames b

/-! ## Services -/

def serviceNames (ss : List Service) : List Violation :=
  firstRepeat .serviceNameIsUnique (ss.map (·.name))

/-- The address has a hierarchy, besides being absolute. -/
def endpointAddress (e : Endpoint) : List Violation :=
  (e.address.toList.filter (! Iri.isHierarchicalText ·)).map fun a =>
    Rule.addressIsAbsolute.violation [a, e.text]

/-- The binding of the endpoint is for the interface of the service, where
both are known. -/
def endpointInterface (d : Description) (s : Service) (e : Endpoint) : List Violation :=
  match (e.bindingIn d).bind (·.interfaceIn d), s.interfaceIn d with
  | some bound, some implemented =>
    violatedIf (bound != implemented) .endpointMatchesService
      [e.text, bound.text, s.text, implemented.text]
  | _, _ => []

def endpointChecks (d : Description) (s : Service) (e : Endpoint) : List Violation :=
  endpointAddress e ++ endpointInterface d s e

/-! ## References -/

/-- What kind of component a name should lead to. -/
inductive ReferenceKind where
  | interface
  | fault
  | operation
  | binding
  deriving DecidableEq, Repr

def ReferenceKind.text : ReferenceKind → String
  | interface => "interface"
  | fault => "interface fault"
  | operation => "interface operation"
  | binding => "binding"

/-- A violation for every name that leads nowhere. -/
def unresolved {α : Type} (k : ReferenceKind) (find? : QName → Option α) (names : List QName) :
    List Violation :=
  (names.filter fun q => (find? q).isNone).map fun q =>
    Rule.referenceResolves.violation [k.text, q.text]

theorem unresolved_eq_nil_iff {α : Type} {k : ReferenceKind} {find? : QName → Option α}
    {names : List QName} :
    unresolved k find? names = [] ↔ ∀ q ∈ names, (find? q).isSome = true := by
  simp [unresolved, Option.isSome_iff_ne_none]

/-- The names of the faults that are referred to. -/
def faultNamesIn (faults : List FaultReference) : List QName := faults.filterMap (·.fault)

def interfaceReferences (d : Description) (i : Interface) : List Violation :=
  unresolved .interface d.interface? i.extended
    ++ i.operations.flatMap fun o => unresolved .fault (d.fault? i) (faultNamesIn o.faults)

/-- The references of a binding into its interface. -/
def boundReferences (d : Description) (i : Interface) (b : Binding) : List Violation :=
  unresolved .fault (d.fault? i) (b.faults.filterMap (·.fault))
    ++ b.operations.flatMap fun o =>
      unresolved .operation (d.operation? i) o.operation.toList
        ++ unresolved .fault (d.fault? i) (faultNamesIn o.faults)

/-- The references of a binding. Without its interface the ones into it are
left alone. -/
def bindingReferences (d : Description) (b : Binding) : List Violation :=
  match b.interfaceIn d with
  | some i => boundReferences d i b
  | none => unresolved .interface d.interface? b.interface.toList

def serviceReferences (d : Description) (s : Service) : List Violation :=
  unresolved .interface d.interface? s.interface.toList
    ++ unresolved .binding d.binding? (s.endpoints.filterMap (·.binding))

def references (d : Description) : List Violation :=
  d.interfaces.flatMap (interfaceReferences d) ++ d.bindings.flatMap (bindingReferences d)
    ++ d.services.flatMap (serviceReferences d)

/-! ## The whole check -/

def interfaceWalk (d : Description) : List Violation :=
  interfaceNames d.interfaces ++ d.interfaces.flatMap (interfaceChecks d)

def bindingWalk (d : Description) : List Violation :=
  bindingNames d.bindings ++ d.bindings.flatMap (bindingChecks d)

def serviceWalk (d : Description) : List Violation :=
  serviceNames d.services
    ++ d.services.flatMap fun s => s.endpoints.flatMap (endpointChecks d s)

/-- Every violation of the assertions on components. -/
def component (d : Description) : List Violation :=
  interfaceWalk d ++ bindingWalk d ++ serviceWalk d ++ references d

end Wsdl.Check
