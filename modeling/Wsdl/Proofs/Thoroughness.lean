-- What the checks pass over in a description that was read. A name or a text
-- that is absent is passed over wherever it is, but those that every element has
-- to have are there. So names pass only if all of them differ, references only if
-- each of them leads somewhere, and texts only if they are as they should be.
import Mathlib.Data.List.Nodup
import Mathlib.Data.Option.Basic
import Mathlib.Data.Prod.Basic
import Wsdl.Check.Document
import Wsdl.Proofs.Completeness
import Wsdl.Proofs.Extensions
import Wsdl.Proofs.Repeats

namespace Wsdl

namespace Check

/-! ## Entries that are there -/

theorem nodup_filterMap_id_iff {α : Type} {xs : List (Option α)} (h : ∀ x ∈ xs, x.isSome = true) :
    (xs.filterMap id).Nodup ↔ xs.Nodup := by
  have hmap : (xs.filterMap id).map some = xs := by
    induction xs with
    | nil => rfl
    | cons x xs ih =>
      obtain ⟨hx, hxs⟩ := List.forall_mem_cons.1 h
      obtain ⟨a, rfl⟩ := Option.isSome_iff_exists.1 hx
      rw [List.filterMap_cons_some (rfl : id (some a) = some a), List.map_cons, ih hxs]
  rw [← List.nodup_map_iff (Option.some_injective α), hmap]

/-! ## Checks of what is there -/

open Component

/-- The fault references that have a label are all different. -/
def FaultsDiffer (faults : List FaultReference) : Prop :=
  (faults.filterMap fun f => f.label.map fun l => (f.fault, l)).Nodup

/-- The name is there, and leads somewhere. -/
def Leads {α : Type} (find? : QName → Option α) (name : Option QName) : Prop :=
  (name.bind find?).isSome = true

section

variable {α β : Type} {r : Rule} {owner : List String} {xs : List β} {name : β → Option QName}

theorem firstRepeat_map_eq_nil_iff (h : ∀ x ∈ xs, (name x).isSome = true) :
    firstRepeat r (xs.map name) = [] ↔ (xs.map name).Nodup := by
  rw [firstRepeat_eq_nil_iff, nodup_filterMap_id_iff (List.forall_mem_map.2 h)]

theorem repeatedNames_map_eq_nil_iff (h : ∀ x ∈ xs, (name x).isSome = true) :
    repeatedNames r owner (xs.map name) = [] ↔ (xs.map name).Nodup := by
  rw [repeatedNames_eq_nil_iff, nodup_filterMap_id_iff (List.forall_mem_map.2 h)]

theorem repeatedFaults_eq_nil_iff {op : String} {faults : List FaultReference}
    (h : ∀ f ∈ faults, f.IsComplete) : repeatedFaults r op faults = [] ↔ FaultsDiffer faults := by
  have hlabelled : (faults.filterMap fun f => bothPresent (f.fault, f.label)).map (Prod.map some id)
      = faults.filterMap fun f => f.label.map fun l => (f.fault, l) := by
    rw [List.map_filterMap]
    refine List.filterMap_congr fun f hf => ?_
    obtain ⟨q, hq⟩ := Option.isSome_iff_exists.1 (h f hf).fault
    rw [hq]
    cases f.label with
    | none => rfl
    | some l => rfl
  have hinj : Function.Injective (Prod.map (some : QName → Option QName) (id : String → String)) :=
    Function.Injective.prodMap (Option.some_injective QName) Function.injective_id
  rw [repeatedFaults, List.map_eq_nil_iff, duplicatePairs_eq_nil_iff, List.filterMap_map,
    FaultsDiffer, ← hlabelled, List.nodup_map_iff hinj]
  rfl

/-- A text that is there passes only as it is. -/
theorem failing_eq_nil_iff {text : Option String} (h : text.isSome = true)
    {passes : String → Bool} {violation : String → Violation} :
    (text.toList.filter (! passes ·)).map violation = []
      ↔ ∃ t, text = some t ∧ passes t = true := by
  obtain ⟨t, rfl⟩ := Option.isSome_iff_exists.1 h
  simp

theorem unresolved_filterMap_eq_nil_iff {k : ReferenceKind} {find? : QName → Option α}
    (h : ∀ x ∈ xs, (name x).isSome = true) :
    unresolved k find? (xs.filterMap name) = [] ↔ ∀ x ∈ xs, Leads find? (name x) := by
  rw [unresolved_eq_nil_iff]
  constructor
  · intro hfound x hx
    obtain ⟨q, hq⟩ := Option.isSome_iff_exists.1 (h x hx)
    rw [Leads, hq]
    exact hfound q (List.mem_filterMap.2 ⟨x, hx, hq⟩)
  · intro hfound q hq
    obtain ⟨x, hx, hxq⟩ := List.mem_filterMap.1 hq
    have hleads := hfound x hx
    rwa [Leads, hxq] at hleads

theorem unresolved_toList_eq_nil_iff {k : ReferenceKind} {find? : QName → Option α}
    {q : Option QName} (h : q.isSome = true) :
    unresolved k find? q.toList = [] ↔ Leads find? q := by
  obtain ⟨q, rfl⟩ := Option.isSome_iff_exists.1 h
  simp [unresolved_eq_nil_iff, Leads]

end

/-! ## Checks that make no exception -/

/-- The checks of an interface hold just if everything in it is as it should be,
with no exception for what is absent. -/
structure InterfaceExemptsNothing (d : Description) (i : Interface) : Prop where
  faultNames : Check.faultNames i = [] ↔ (i.faults.map (·.name)).Nodup
  operationNames : Check.operationNames i = [] ↔ (i.operations.map (·.name)).Nodup
  patterns : ∀ o ∈ i.operations,
    (Check.operationPattern o = [] ↔ ∃ p, o.pattern = some p ∧ Iri.isAbsoluteText p = true)
  faultReferences : ∀ o ∈ i.operations, (Check.faultReferences o = [] ↔ FaultsDiffer o.faults)
  references : interfaceReferences d i = [] ↔
    (∀ q ∈ i.extended, (d.interface? q).isSome = true) ∧
      ∀ o ∈ i.operations, ∀ f ∈ o.faults, Leads (d.fault? i) f.fault

/-- So do those of a binding. References below an interface that is not found
are left alone. -/
structure BindingExemptsNothing (d : Description) (b : Binding) : Prop where
  type : Check.bindingType b = [] ↔ ∃ t, b.type = some t ∧ Iri.isAbsoluteText t = true
  faultNames : Check.boundFaultNames b = [] ↔ (b.faults.map (·.fault)).Nodup
  operationNames : Check.boundOperationNames b = [] ↔ (b.operations.map (·.operation)).Nodup
  faultReferences : ∀ o ∈ b.operations,
    (Check.boundFaultReferences o = [] ↔ FaultsDiffer o.faults)
  references : ∀ i, b.interfaceIn d = some i → (bindingReferences d b = [] ↔
    (∀ f ∈ b.faults, Leads (d.fault? i) f.fault) ∧
      ∀ o ∈ b.operations, Leads (d.operation? i) o.operation ∧
        ∀ f ∈ o.faults, Leads (d.fault? i) f.fault)

/-- So do those of a whole description. -/
structure ExemptsNothing (w : Written.Description) (d : Description) : Prop where
  targetNamespace : Check.targetNamespace w = [] ↔
    ∃ ns, w.targetNamespace = some ns ∧ Iri.isAbsoluteText ns = true
  imports : ∀ i ∈ w.imports, (Check.foreignImport w i = [] ↔ i.space ≠ w.targetNamespace)
  interfaceNames : Check.interfaceNames d.interfaces = [] ↔ (d.interfaces.map (·.name)).Nodup
  interfaces : ∀ i ∈ d.interfaces, InterfaceExemptsNothing d i
  bindingNames : Check.bindingNames d.bindings = [] ↔ (d.bindings.map (·.name)).Nodup
  bindings : ∀ b ∈ d.bindings, BindingExemptsNothing d b
  serviceNames : Check.serviceNames d.services = [] ↔ (d.services.map (·.name)).Nodup
  serviceReferences : ∀ s ∈ d.services, (Check.serviceReferences d s = [] ↔
    Leads d.interface? s.interface ∧ ∀ e ∈ s.endpoints, Leads d.binding? e.binding)

section

variable {w : Written.Description} (d : Description)

theorem isSome_of_isNameOf {written : Option String} {name : Option QName}
    (h : IsNameOf w written name) : name.isSome = true := by
  obtain ⟨ns, l, _, _, _, rfl⟩ := h
  rfl

/-- What each entry has for its partner holds of every entry. -/
theorem forall_of_forall₂ {α β : Type} {R : α → β → Prop} {P : β → Prop} {xs : List α}
    {ys : List β} (h : List.Forall₂ R xs ys) (hR : ∀ x y, R x y → P y) : ∀ y ∈ ys, P y := by
  induction h with
  | nil => simp
  | cons hxy _ ih => exact List.forall_mem_cons.2 ⟨hR _ _ hxy, ih⟩

theorem interfaceExemptsNothing {wi : Written.Interface} {i : Interface}
    (h : i.IsCompleteFor w wi) : InterfaceExemptsNothing d i := by
  have hfaults := forall_of_forall₂ h.faults fun _ _ => isSome_of_isNameOf
  have hoperations := forall_of_forall₂ h.operations fun _ _ ho => isSome_of_isNameOf ho.name
  have hpatterns := forall_of_forall₂ h.operations fun _ _ ho => ho.pattern
  have hreferences := forall_of_forall₂ h.operations fun _ _ ho => ho.faults
  refine ⟨repeatedNames_map_eq_nil_iff hfaults, repeatedNames_map_eq_nil_iff hoperations,
    fun o ho => failing_eq_nil_iff (hpatterns o ho),
    fun o ho => repeatedFaults_eq_nil_iff (hreferences o ho), ?_⟩
  rw [interfaceReferences, List.append_eq_nil_iff, unresolved_eq_nil_iff, List.flatMap_eq_nil_iff]
  refine and_congr_right fun _ => forall₂_congr fun o ho => ?_
  exact unresolved_filterMap_eq_nil_iff fun f hf => (hreferences o ho f hf).fault

theorem bindingExemptsNothing {wb : Written.Binding} {b : Binding} (h : b.IsCompleteFor w wb) :
    BindingExemptsNothing d b := by
  have hoperations : ∀ o ∈ b.operations, o.operation.isSome = true := fun o ho =>
    (h.operations o ho).operation
  refine ⟨failing_eq_nil_iff h.type, repeatedNames_map_eq_nil_iff h.faults,
    repeatedNames_map_eq_nil_iff hoperations,
    fun o ho => repeatedFaults_eq_nil_iff (h.operations o ho).faults, fun i hi => ?_⟩
  rw [bindingReferences, hi]
  simp only [boundReferences, List.append_eq_nil_iff, List.flatMap_eq_nil_iff]
  refine and_congr (unresolved_filterMap_eq_nil_iff h.faults) (forall₂_congr fun o ho => ?_)
  exact and_congr (unresolved_toList_eq_nil_iff (hoperations o ho))
    (unresolved_filterMap_eq_nil_iff fun f hf => ((h.operations o ho).faults f hf).fault)

theorem exemptsNothing (h : d.IsCompleteFor w) : ExemptsNothing w d := by
  obtain ⟨ns, hns, _⟩ := h.targetNamespace
  refine ⟨failing_eq_nil_iff (by simp [hns]), fun i _ => ?_, ?_, ?_, ?_, ?_, ?_, ?_⟩
  · rw [foreignImport, hns]
    cases i.space with
    | none => simp
    | some space => simp
  · exact firstRepeat_map_eq_nil_iff
      (forall_of_forall₂ h.interfaces fun _ _ hi => isSome_of_isNameOf hi.name)
  · exact forall_of_forall₂ h.interfaces fun _ _ => interfaceExemptsNothing d
  · exact repeatedNames_map_eq_nil_iff
      (forall_of_forall₂ h.bindings fun _ _ hb => isSome_of_isNameOf hb.name)
  · exact forall_of_forall₂ h.bindings fun _ _ => bindingExemptsNothing d
  · exact firstRepeat_map_eq_nil_iff
      (forall_of_forall₂ h.services fun _ _ hs => isSome_of_isNameOf hs.name)
  · refine forall_of_forall₂ h.services fun ws s hs => ?_
    have hends := forall_of_forall₂ hs.endpoints fun _ _ he => he.binding
    rw [serviceReferences, List.append_eq_nil_iff]
    exact and_congr (unresolved_toList_eq_nil_iff hs.interface)
      (unresolved_filterMap_eq_nil_iff hends)

end

end Check

/-! ## The law -/

/-- What is read from a document has everything that it has to have, and so have
its components. So the checks make no exception in it. -/
theorem Sources.what_is_read_lacks_nothing_and_is_checked_throughout (s : Sources)
    (base : Option Iri) (root : Xml.Element) (w : Written.Description)
    (h : s.ofRoot base root = .ok w) :
    w.IsComplete ∧ (Component.derive w).IsCompleteFor w ∧
      Check.ExemptsNothing w (Component.derive w) := by
  have hcomplete : w.IsComplete := Written.gives_ofRoot s base root w h
  have hderived := Component.isCompleteFor_derive hcomplete
  exact ⟨hcomplete, hderived, Check.exemptsNothing _ hderived⟩

/-- An element of the language, below which names are those of a shop. -/
def exampleNode (name : String) (attributes : List (String × String))
    (children : List Xml.Element) : Xml.Element :=
  ⟨⟨some wsdlNamespace, name⟩, attributes.map fun a => (⟨none, a.1⟩, a.2), none, children,
    Scope.empty.setDefault "urn:shop", ⟨1, 1⟩⟩

def exampleOffer : Xml.Element :=
  exampleNode "description" [("targetNamespace", "urn:shop")]
    [exampleNode "interface" [("name", "Counter")]
      [exampleNode "fault" [("name", "Closed")] [],
       exampleNode "operation" [("name", "ask")]
        [exampleNode "input" [] [], exampleNode "outfault" [("ref", "Closed")] []]],
     exampleNode "binding" [("name", "Till"), ("interface", "Counter"), ("type", "urn:till")]
      [exampleNode "fault" [("ref", "Closed")] [],
       exampleNode "operation" [("ref", "ask")] [exampleNode "outfault" [("ref", "Closed")] []]],
     exampleNode "service" [("name", "Shop"), ("interface", "Counter")]
      [exampleNode "endpoint" [("name", "door"), ("binding", "Till")] []]]

def exampleShopName (l : String) : Option QName := some ⟨some "urn:shop", l⟩

def exampleAt (element : String) : Locator := ⟨none, some 1, some 1, some element⟩

/-- What the offer says. -/
def exampleOffered : Written.Description :=
  ⟨none, some "urn:shop", [], [], none,
    [⟨some "Counter", [], [], [⟨some "Closed", none, exampleAt "fault name=\"Closed\""⟩],
      [⟨some "ask", none, [], [⟨.inward, none, none, exampleAt "input"⟩], [], [],
        [⟨.outward, exampleShopName "Closed", none, exampleAt "outfault"⟩],
        exampleAt "operation name=\"ask\""⟩], exampleAt "interface name=\"Counter\""⟩],
    [⟨some "Till", exampleShopName "Counter", some "urn:till",
      [⟨exampleShopName "Closed", exampleAt "fault"⟩],
      [⟨exampleShopName "ask", [], [⟨.outward, exampleShopName "Closed", none,
        exampleAt "outfault"⟩], exampleAt "operation"⟩], exampleAt "binding name=\"Till\""⟩],
    [⟨some "Shop", exampleShopName "Counter",
      [⟨some "door", exampleShopName "Till", none, exampleAt "endpoint name=\"door\""⟩],
      exampleAt "service name=\"Shop\""⟩], exampleAt "description"⟩

theorem the_offer_lacks_nothing :
    exampleSources.ofRoot none exampleOffer = .ok exampleOffered ∧ exampleOffered.IsComplete ∧
      (Component.derive exampleOffered).IsCompleteFor exampleOffered ∧
      Check.ExemptsNothing exampleOffered (Component.derive exampleOffered) := by
  have hread : exampleSources.ofRoot none exampleOffer = .ok exampleOffered := by rfl
  exact ⟨hread, exampleSources.what_is_read_lacks_nothing_and_is_checked_throughout none
    exampleOffer exampleOffered hread⟩

end Wsdl
