-- Which rules the checks hold a description to. Every violation that a check
-- finds is one of a few rules, and has as many arguments as belong to its rule.
import Wsdl.Check.Component
import Wsdl.Check.Document
import Wsdl.Proofs.Summary

namespace Wsdl

/-- How many arguments a violation of a rule has. -/
def Rule.arity : Rule → Nat
  | namespaceIsAbsolute | namespaceIsRetrievable | writtenNamespaceIsAbsolute | importIsForeign
  | interfaceIsAcyclic | interfaceNameIsUnique | boundFaultHasInterface | bindingNameIsUnique
  | serviceNameIsUnique | elementIsAvailable => 1
  | messageLabelIsKnown | faultLabelIsKnown | faultReferenceIsUnique
  | boundFaultReferenceIsUnique | importedSchemaMatches => 3
  | endpointMatchesService => 4
  | _ => 2

namespace Check

/-! ## Violations of some rules -/

/-- A violation of the rule, with as many arguments as belong to it. -/
def IsOf (r : Rule) (v : Violation) : Prop :=
  ∃ place args, v = r.violationAt place args ∧ args.length = r.arity

/-- Every violation of the list is one of these rules. -/
def Among (rs : List Rule) (vs : List Violation) : Prop := ∀ v ∈ vs, ∃ r ∈ rs, IsOf r v

section

variable {rs : List Rule} {r : Rule} {α : Type}

theorem IsOf.id_eq {v : Violation} (h : IsOf r v) : v.id = r.id := by
  obtain ⟨place, args, rfl, _⟩ := h
  rfl

theorem IsOf.length_args {v : Violation} (h : IsOf r v) : v.args.length = r.arity := by
  obtain ⟨place, args, rfl, hargs⟩ := h
  exact hargs

theorem IsOf.severity_eq {v : Violation} (h : IsOf r v) : v.severity = r.severity := by
  obtain ⟨place, args, rfl, _⟩ := h
  rfl

theorem Among.mono {rs' : List Rule} {vs : List Violation} (h : Among rs vs) (hrs : rs ⊆ rs') :
    Among rs' vs := fun v hv =>
  let ⟨r, hr, hof⟩ := h v hv
  ⟨r, hrs hr, hof⟩

/-- Where every rule is grave, only an empty list is valid. -/
theorem Among.isValid_iff {vs : List Violation} (h : Among rs vs)
    (hrs : ∀ r ∈ rs, r.severity = .error) : (Summary.of vs).isValid = true ↔ vs = [] := by
  rw [Summary.isValid_of_iff, List.eq_nil_iff_forall_not_mem]
  constructor
  · intro hvs v hv
    obtain ⟨r, hr, hof⟩ := h v hv
    exact hvs v hv (hof.severity_eq.trans (hrs r hr))
  · exact fun hvs v hv => absurd hv (hvs v)

@[simp] theorem among_nil : Among rs [] := by simp [Among]

@[simp] theorem among_append {vs ws : List Violation} :
    Among rs (vs ++ ws) ↔ Among rs vs ∧ Among rs ws := List.forall_mem_append

@[simp] theorem among_flatMap {xs : List α} {f : α → List Violation} :
    Among rs (xs.flatMap f) ↔ ∀ x ∈ xs, Among rs (f x) := by
  simp only [Among, List.mem_flatMap]
  constructor
  · exact fun h x hx v hv => h v ⟨x, hx, hv⟩
  · rintro h v ⟨x, hx, hv⟩
    exact h x hx v hv

/-- A list of violations of one rule, one for each entry of another list. -/
theorem among_map {xs : List α} {place : Locator} {args : α → List String} (hr : r ∈ rs)
    (ha : ∀ x, (args x).length = r.arity) :
    Among rs (xs.map fun x => r.violationAt place (args x)) := by
  intro v hv
  obtain ⟨x, _, rfl⟩ := List.mem_map.1 hv
  exact ⟨r, hr, place, args x, rfl, ha x⟩

theorem among_violatedIf {c : Bool} {args : List String} (hr : r ∈ rs)
    (ha : args.length = r.arity) : Among rs (violatedIf c r args) := by
  unfold violatedIf
  split
  · intro v hv
    exact ⟨r, hr, .nowhere, args, List.mem_singleton.1 hv, ha⟩
  · exact among_nil

theorem among_firstRepeat {names : List (Option QName)} (hr : r ∈ rs) (ha : 1 = r.arity) :
    Among rs (firstRepeat r names) := among_map hr fun _ => ha

theorem among_repeatedNames {owner : List String} {names : List (Option QName)} (hr : r ∈ rs)
    (ha : owner.length + 1 = r.arity) : Among rs (repeatedNames r owner names) :=
  among_map hr fun _ => ha

theorem among_repeatedLabels {owner : String} {labels : List (Option String)} (hr : r ∈ rs)
    (ha : 2 = r.arity) : Among rs (repeatedLabels r owner labels) := among_map hr fun _ => ha

theorem among_repeatedFaults {owner : String} {faults : List Component.FaultReference}
    (hr : r ∈ rs) (ha : 3 = r.arity) : Among rs (repeatedFaults r owner faults) :=
  among_map hr fun _ => ha

end

/-! ## The rules for components -/

def componentRules : List Rule :=
  [.interfaceIsAcyclic, .interfaceNameIsUnique, .faultNameIsUnique, .operationNameIsUnique,
   .styleIsAbsolute, .patternIsAbsolute, .messageLabelIsUnique, .faultReferenceIsUnique,
   .bindingNameIsUnique, .boundFaultHasInterface, .bindingIsComplete, .bindingTypeIsAbsolute,
   .operationIsBoundOnce, .boundMessageLabelIsUnique, .boundFaultReferenceIsUnique,
   .faultIsBoundOnce, .serviceNameIsUnique, .addressIsAbsolute, .endpointMatchesService,
   .referenceResolves]

/-- The rules that are not about how interfaces, bindings and services are
named. -/
def innerRules : List Rule :=
  componentRules.filter fun r =>
    r ∉ [.interfaceNameIsUnique, .bindingNameIsUnique, .serviceNameIsUnique]

theorem innerRules_subset : innerRules ⊆ componentRules := List.filter_sublist.subset

section

open Component

variable (d : Description)

theorem among_operationChecks (o : Operation) : Among innerRules (operationChecks o) := by
  simp only [operationChecks, among_append]
  refine ⟨⟨⟨?_, ?_⟩, ?_⟩, ?_⟩
  · exact among_map (by decide) fun _ => rfl
  · exact among_map (by decide) fun _ => rfl
  · exact among_repeatedLabels (by decide) rfl
  · exact among_repeatedFaults (by decide) rfl

theorem among_interfaceChecks (i : Interface) : Among innerRules (interfaceChecks d i) := by
  simp only [interfaceChecks, among_append, among_flatMap]
  refine ⟨⟨⟨?_, ?_⟩, ?_⟩, fun o _ => among_operationChecks o⟩
  · exact among_violatedIf (by decide) rfl
  · exact among_repeatedNames (by decide) rfl
  · exact among_repeatedNames (by decide) rfl

theorem among_bindingCompleteness (b : Binding) :
    Among innerRules (bindingCompleteness d b) := by
  unfold bindingCompleteness
  split
  · exact among_nil
  · exact among_map (by decide) fun _ => rfl

theorem among_bindingChecks (b : Binding) : Among innerRules (bindingChecks d b) := by
  simp only [bindingChecks, boundOperationChecks, among_append, among_flatMap]
  refine ⟨⟨⟨⟨⟨?_, ?_⟩, ?_⟩, ?_⟩, fun o _ => ⟨?_, ?_⟩⟩, ?_⟩
  · exact among_violatedIf (by decide) rfl
  · exact among_bindingCompleteness d b
  · exact among_map (by decide) fun _ => rfl
  · exact among_repeatedNames (by decide) rfl
  · exact among_repeatedLabels (by decide) rfl
  · exact among_repeatedFaults (by decide) rfl
  · exact among_repeatedNames (by decide) rfl

theorem among_endpointChecks (s : Service) (e : Endpoint) :
    Among innerRules (endpointChecks d s e) := by
  simp only [endpointChecks, among_append]
  refine ⟨among_map (by decide) fun _ => rfl, ?_⟩
  unfold endpointInterface
  split
  · exact among_violatedIf (by decide) rfl
  · exact among_nil

theorem among_unresolved {α : Type} (k : ReferenceKind) (find? : QName → Option α)
    (names : List QName) : Among innerRules (unresolved k find? names) :=
  among_map (by decide) fun _ => rfl

theorem among_bindingReferences (b : Binding) :
    Among innerRules (bindingReferences d b) := by
  unfold bindingReferences
  split
  · simp only [boundReferences, among_append, among_flatMap]
    exact ⟨among_unresolved _ _ _, fun o _ => ⟨among_unresolved _ _ _, among_unresolved _ _ _⟩⟩
  · exact among_unresolved _ _ _

theorem among_references : Among innerRules (references d) := by
  simp only [references, interfaceReferences, serviceReferences, among_append, among_flatMap]
  refine ⟨⟨fun i _ => ⟨?_, fun o _ => ?_⟩, fun b _ => ?_⟩, fun s _ => ⟨?_, ?_⟩⟩
  · exact among_unresolved _ _ _
  · exact among_unresolved _ _ _
  · exact among_bindingReferences d b
  · exact among_unresolved _ _ _
  · exact among_unresolved _ _ _

/-- The check of components finds violations of the rules for components
only. -/
theorem among_component : Among componentRules (component d) := by
  simp only [component, interfaceWalk, bindingWalk, serviceWalk, among_append, among_flatMap]
  refine ⟨⟨⟨⟨?_, fun i _ => ?_⟩, ?_, fun b _ => ?_⟩, ?_, fun s _ e _ => ?_⟩, ?_⟩
  · exact among_firstRepeat (by decide) rfl
  · exact (among_interfaceChecks d i).mono innerRules_subset
  · exact among_repeatedNames (by decide) rfl
  · exact (among_bindingChecks d b).mono innerRules_subset
  · exact among_firstRepeat (by decide) rfl
  · exact (among_endpointChecks d s e).mono innerRules_subset
  · exact (among_references d).mono innerRules_subset

/-- Every rule for components is grave, so a description is valid only if
nothing is found. -/
theorem isValid_component_iff :
    (Summary.of (component d)).isValid = true ↔ component d = [] :=
  (among_component d).isValid_iff (by decide)

end

/-! ## The rules for written descriptions -/

def documentRules : List Rule :=
  [.writtenNamespaceIsAbsolute, .importIsForeign, .importedSchemaHasNamespace,
   .importedSchemaMatches, .elementIsDeclaredOnce, .typeIsDefinedOnce, .defaultStyleIsAbsolute,
   .elementIsAvailable, .messageLabelIsKnown, .faultLabelIsKnown]

section

open Written

theorem among_repeatedDeclarations (earlier : List SchemaDocument) (ns : String)
    (s : InlineSchema) : Among documentRules (repeatedDeclarations earlier ns s) := by
  simp only [repeatedDeclarations, among_append]
  constructor
  · exact among_map (by decide) fun _ => rfl
  · exact among_map (by decide) fun _ => rfl

theorem among_declarationsFrom (g : SchemaGroups) (ss : List InlineSchema) :
    Among documentRules (declarationsFrom g ss) := by
  fun_induction declarationsFrom g ss with
  | case1 => exact among_nil
  | case2 g s ss hns ih => exact ih
  | case3 g s ss ns hns ih => exact among_append.2 ⟨among_repeatedDeclarations _ _ _, ih⟩

theorem among_typesChecks (t : Types) : Among documentRules (typesChecks t) := by
  simp only [typesChecks, importedSchema, among_append, among_flatMap]
  refine ⟨fun s _ => ⟨?_, ?_⟩, among_declarationsFrom [] t.inline⟩
  · exact among_map (by decide) fun _ => rfl
  · exact among_map (by decide) fun _ => rfl

theorem among_contentElement (t : Option Types) (c : Option Content) (place : Locator) :
    Among documentRules (contentElement t c place) := by
  simp only [contentElement, among_flatMap]
  intro q _
  unfold elementAvailability
  split
  · exact among_nil
  · intro v hv
    exact ⟨.elementIsAvailable, by decide, place, [q.text], List.mem_singleton.1 hv, rfl⟩

theorem among_labelChecks {r : Rule} (hr : r ∈ documentRules) (ha : 3 = r.arity)
    (o : Operation) (labels : List (Option String × Locator)) :
    Among documentRules (labelChecks r o labels) := by
  unfold labelChecks
  split
  · exact among_nil
  · simp only [among_flatMap]
    exact fun x _ => among_map hr fun _ => ha

theorem among_writtenInterfaceChecks (t : Option Types) (i : Interface) :
    Among documentRules (writtenInterfaceChecks t i) := by
  simp only [writtenInterfaceChecks, writtenOperationChecks, among_append, among_flatMap]
  refine ⟨⟨?_, fun f _ => ?_⟩, fun o _ => ⟨⟨fun m _ => ?_, ?_⟩, ?_⟩⟩
  · exact among_map (by decide) fun _ => rfl
  · exact among_contentElement _ _ _
  · exact among_contentElement _ _ _
  · exact among_labelChecks (by decide) rfl _ _
  · exact among_labelChecks (by decide) rfl _ _

/-- The check of a written description finds violations of the rules for
written descriptions only. -/
theorem among_document (w : Description) : Among documentRules (document w) := by
  simp only [document, among_append, among_flatMap]
  refine ⟨⟨⟨?_, fun i _ => ?_⟩, fun t _ => among_typesChecks t⟩,
    fun i _ => among_writtenInterfaceChecks _ i⟩
  · exact among_map (by decide) fun _ => rfl
  · exact among_map (by decide) fun _ => rfl

end

end Check

end Wsdl
