-- The order in which interfaces, bindings and services stand. A name leads to
-- the first component that has it, so with repeated names the order matters
-- to what is found. It never matters to whether anything is found, and where
-- no name repeats it does not matter at all.
import Mathlib.Data.List.Find
import Mathlib.Data.List.Perm.Basic
import Wsdl.Proofs.Inheritance
import Wsdl.Proofs.Repeats
import Wsdl.Proofs.Violations

namespace Wsdl.Component

variable {d d' : Description}

/-! ## Orders -/

/-- The same interfaces, bindings and services, in any order. -/
structure Reordered (d d' : Description) : Prop where
  interfaces : d.interfaces.Perm d'.interfaces
  bindings : d.bindings.Perm d'.bindings
  services : d.services.Perm d'.services

/-- No two interfaces have the same name, no two bindings and no two services.
Any number of them may have none. -/
structure Unambiguous (d : Description) : Prop where
  interfaces : (d.interfaces.filterMap (·.name)).Nodup
  bindings : (d.bindings.filterMap (·.name)).Nodup
  services : (d.services.filterMap (·.name)).Nodup

/-- Names lead to the same interfaces and bindings. -/
structure SameNames (d d' : Description) : Prop where
  interface : d.interface? = d'.interface?
  binding : d.binding? = d'.binding?

theorem Reordered.symm (h : Reordered d d') : Reordered d' d :=
  ⟨h.interfaces.symm, h.bindings.symm, h.services.symm⟩

theorem Unambiguous.of_reordered (hu : Unambiguous d) (h : Reordered d d') : Unambiguous d' where
  interfaces := (h.interfaces.filterMap _).nodup_iff.1 hu.interfaces
  bindings := (h.bindings.filterMap _).nodup_iff.1 hu.bindings
  services := (h.services.filterMap _).nodup_iff.1 hu.services

/-! ## Names without repeats -/

/-- Where no name repeats, the first entry with a name is the only one. -/
theorem find?_eq_of_perm {α : Type} {f : α → Option QName} {l l' : List α}
    (hl : (l.filterMap f).Nodup) (h : l.Perm l') (q : QName) :
    l.find? (f · == some q) = l'.find? (f · == some q) := by
  apply List.find?_eq_find?_of_perm h
  rintro x ⟨hx, hxq⟩ y ⟨hy, hyq⟩
  obtain ⟨m, hm⟩ := List.mem_iff_getElem?.1 hx
  obtain ⟨n, hn⟩ := List.mem_iff_getElem?.1 hy
  have hmn : m = n :=
    Check.place_eq_of_nodup hl hm hn (beq_iff_eq.1 hxq) (beq_iff_eq.1 hyq)
  subst hmn
  exact Option.some.inj (hm.symm.trans hn)

theorem SameNames.of_reordered (hu : Unambiguous d) (h : Reordered d d') : SameNames d d' where
  interface := funext fun q => find?_eq_of_perm hu.interfaces h.interfaces q
  binding := funext fun q => find?_eq_of_perm hu.bindings h.bindings q

/-! ## What follows names -/

namespace SameNames

theorem bindingInterface_eq (h : SameNames d d') (b : Binding) :
    b.interfaceIn d = b.interfaceIn d' := by
  rw [Binding.interfaceIn, Binding.interfaceIn, h.interface]

theorem indexIn_eq (h : SameNames d d') (o : BindingOperation) (b : Binding) :
    o.indexIn b d = o.indexIn b d' := by
  simp only [BindingOperation.indexIn, Description.operationIndex?, h.bindingInterface_eq,
    Description.operationsOf_congr h.interface]

theorem serviceInterface_eq (h : SameNames d d') (s : Service) :
    s.interfaceIn d = s.interfaceIn d' := by
  rw [Service.interfaceIn, Service.interfaceIn, h.interface]

theorem endpointBinding_eq (h : SameNames d d') (e : Endpoint) :
    e.bindingIn d = e.bindingIn d' := by
  rw [Endpoint.bindingIn, Endpoint.bindingIn, h.binding]

/-! ## What single components are checked for -/

theorem interfaceChecks_eq (h : SameNames d d') :
    Check.interfaceChecks d = Check.interfaceChecks d' := by
  funext i
  simp only [Check.interfaceChecks, Check.interfaceCycle,
    Description.extendsItself_congr h.interface]

theorem bindingCompleteness_eq (h : SameNames d d') (b : Binding) :
    Check.bindingCompleteness d b = Check.bindingCompleteness d' b := by
  have hplaces : Check.boundPlaces d b = Check.boundPlaces d' b := by
    simp only [Check.boundPlaces, h.indexIn_eq]
  simp only [Check.bindingCompleteness, h.bindingInterface_eq,
    Description.operationsOf_congr h.interface, hplaces]

theorem bindingChecks_eq (h : SameNames d d') :
    Check.bindingChecks d = Check.bindingChecks d' := by
  funext b
  simp only [Check.bindingChecks, h.bindingCompleteness_eq]

theorem endpointChecks_eq (h : SameNames d d') :
    Check.endpointChecks d = Check.endpointChecks d' := by
  funext s e
  simp only [Check.endpointChecks, Check.endpointInterface, h.endpointBinding_eq,
    h.bindingInterface_eq, h.serviceInterface_eq]

theorem interfaceReferences_eq (h : SameNames d d') :
    Check.interfaceReferences d = Check.interfaceReferences d' := by
  funext i
  simp only [Check.interfaceReferences, h.interface, Description.fault?_congr h.interface]

theorem bindingReferences_eq (h : SameNames d d') :
    Check.bindingReferences d = Check.bindingReferences d' := by
  funext b
  simp only [Check.bindingReferences, Check.boundReferences, h.bindingInterface_eq, h.interface,
    Description.fault?_congr h.interface, Description.operation?_congr h.interface]

theorem serviceReferences_eq (h : SameNames d d') :
    Check.serviceReferences d = Check.serviceReferences d' := by
  funext s
  simp only [Check.serviceReferences, h.interface, h.binding]

end SameNames

/-! ## The whole check -/

/-- The names are checked for repeats, so a description in which nothing is
found repeats none. -/
theorem Unambiguous.of_component_eq_nil (h : Check.component d = []) : Unambiguous d := by
  simp only [Check.component, Check.interfaceWalk, Check.bindingWalk, Check.serviceWalk,
    List.append_eq_nil_iff] at h
  obtain ⟨⟨⟨⟨hi, _⟩, hb, _⟩, hs, _⟩, _⟩ := h
  refine ⟨?_, ?_, ?_⟩
  · simpa [List.filterMap_map] using (Check.firstRepeat_eq_nil_iff _ _).1 hi
  · simpa [List.filterMap_map] using (Check.repeatedNames_eq_nil_iff _ _ _).1 hb
  · simpa [List.filterMap_map] using (Check.firstRepeat_eq_nil_iff _ _).1 hs

/-- Where no name repeats, none is reported. -/
theorem Unambiguous.names_eq_nil (h : Unambiguous d) :
    Check.interfaceNames d.interfaces = [] ∧ Check.bindingNames d.bindings = [] ∧
      Check.serviceNames d.services = [] := by
  refine ⟨?_, ?_, ?_⟩
  · rw [Check.interfaceNames, Check.firstRepeat_eq_nil_iff]
    simpa [List.filterMap_map] using h.interfaces
  · rw [Check.bindingNames, Check.repeatedNames_eq_nil_iff]
    simpa [List.filterMap_map] using h.bindings
  · rw [Check.serviceNames, Check.firstRepeat_eq_nil_iff]
    simpa [List.filterMap_map] using h.services

/-- Each component is checked by itself and by what names lead to, so its
violations move with it. -/
theorem component_perm (hu : Unambiguous d) (h : Reordered d d') :
    (Check.component d).Perm (Check.component d') := by
  have hn : SameNames d d' := .of_reordered hu h
  obtain ⟨hinterfaces, hbindings, hservices⟩ := hu.names_eq_nil
  obtain ⟨hinterfaces', hbindings', hservices'⟩ := (hu.of_reordered h).names_eq_nil
  have hinterfaceWalk : (Check.interfaceWalk d).Perm (Check.interfaceWalk d') := by
    rw [Check.interfaceWalk, Check.interfaceWalk, hinterfaces, hinterfaces', hn.interfaceChecks_eq]
    exact h.interfaces.flatMap_right _
  have hbindingWalk : (Check.bindingWalk d).Perm (Check.bindingWalk d') := by
    rw [Check.bindingWalk, Check.bindingWalk, hbindings, hbindings', hn.bindingChecks_eq]
    exact h.bindings.flatMap_right _
  have hserviceWalk : (Check.serviceWalk d).Perm (Check.serviceWalk d') := by
    rw [Check.serviceWalk, Check.serviceWalk, hservices, hservices', hn.endpointChecks_eq]
    exact h.services.flatMap_right _
  have hreferences : (Check.references d).Perm (Check.references d') := by
    rw [Check.references, Check.references, hn.interfaceReferences_eq, hn.bindingReferences_eq,
      hn.serviceReferences_eq]
    exact ((h.interfaces.flatMap_right _).append (h.bindings.flatMap_right _)).append
      (h.services.flatMap_right _)
  exact ((hinterfaceWalk.append hbindingWalk).append hserviceWalk).append hreferences

theorem component_eq_nil_of_reordered (h : Reordered d d') (hd : Check.component d = []) :
    Check.component d' = [] := by
  have hperm := component_perm (.of_component_eq_nil hd) h
  rw [hd] at hperm
  exact List.nil_perm.1 hperm

/-! ## The law -/

/-- Whether a description is valid does not depend on the order of its
interfaces, bindings and services. Where no two of one kind share a name, the
same violations are found as often in any order. -/
theorem the_order_of_components_does_not_matter (h : Reordered d d') :
    (Summary.of (Check.component d)).isValid = (Summary.of (Check.component d')).isValid ∧
      (Unambiguous d → (Check.component d).Perm (Check.component d')) := by
  refine ⟨?_, fun hu => component_perm hu h⟩
  rw [Bool.eq_iff_iff, Check.isValid_component_iff, Check.isValid_component_iff]
  exact ⟨component_eq_nil_of_reordered h, component_eq_nil_of_reordered h.symm⟩

/-- Extends an interface that is not there, and has an operation. -/
def exampleParent : Interface :=
  ⟨some ⟨none, "Parent"⟩, [⟨none, "Missing"⟩], [], [], [⟨some ⟨none, "ask"⟩, none, [], [], []⟩]⟩

def exampleChild : Interface := ⟨some ⟨none, "Child"⟩, [⟨none, "Parent"⟩], [], [], []⟩

/-- Binds nothing of what the child inherits. -/
def exampleIdle : Binding := ⟨some ⟨none, "Idle"⟩, some ⟨none, "Child"⟩, none, [], []⟩

/-- Implements the parent with the binding of the child. -/
def exampleService : Service :=
  ⟨some ⟨none, "Service"⟩, some ⟨none, "Parent"⟩, [⟨some "End", some ⟨none, "Idle"⟩, none⟩]⟩

def exampleForward : Description :=
  ⟨none, [exampleParent, exampleChild], [exampleIdle], [exampleService], [], []⟩

def exampleBackward : Description :=
  ⟨none, [exampleChild, exampleParent], [exampleIdle], [exampleService], [], []⟩

theorem exampleForward_in_either_order :
    Reordered exampleForward exampleBackward ∧ Unambiguous exampleForward ∧
      (Summary.of (Check.component exampleForward)).isValid
        = (Summary.of (Check.component exampleBackward)).isValid ∧
      (Check.component exampleForward).Perm (Check.component exampleBackward) := by
  have h : Reordered exampleForward exampleBackward := ⟨.swap _ _ _, .refl _, .refl _⟩
  have hu : Unambiguous exampleForward := ⟨by decide, by decide, by decide⟩
  obtain ⟨hvalid, hperm⟩ := the_order_of_components_does_not_matter h
  exact ⟨h, hu, hvalid, hperm hu⟩

end Wsdl.Component
