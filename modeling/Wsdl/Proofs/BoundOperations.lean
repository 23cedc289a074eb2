-- What the assertions on bindings say together. A binding that is complete,
-- binds no operation twice and refers to nothing unknown binds the operations
-- of its interface one by one, and these all have names of their own.
import Mathlib
import Wsdl.Proofs.Inheritance
import Wsdl.Proofs.Repeats

open Relation

namespace Wsdl.Component

variable {d : Description} {b : Binding} {i : Interface} {o : BindingOperation} {q : QName}
  {k p : Nat}

/-! ## Places of operations -/

/-- The binding operation at place `p` binds the operation at place `k` of
the interface. -/
def Binding.BindsAt (b : Binding) (d : Description) (p k : Nat) : Prop :=
  ∃ o, b.operations[p]? = some o ∧ o.indexIn b d = some k

theorem Description.operationIndex?_eq_some_iff :
    d.operationIndex? i q = some k ↔ ∃ h : k < (d.operationsOf i).length,
      (d.operationsOf i)[k].name = some q ∧
        ∀ j (hj : j < k), (d.operationsOf i)[j].name ≠ some q := by
  simp [Description.operationIndex?, List.findIdx?_eq_some_iff_getElem]

theorem Description.operation?_eq_bind (d : Description) (i : Interface) (q : QName) :
    d.operation? i q = (d.operationIndex? i q).bind ((d.operationsOf i)[·]?) :=
  List.find?_eq_bind_findIdx?_getElem?

theorem BindingOperation.indexIn_eq_some_iff (hi : b.interfaceIn d = some i) :
    o.indexIn b d = some k ↔ ∃ q, o.operation = some q ∧ d.operationIndex? i q = some k := by
  simp [BindingOperation.indexIn, hi, Option.bind_eq_some_iff]

/-- The operation that is bound is the one at the place that is bound. -/
theorem BindingOperation.operationIn_of_indexIn (hi : b.interfaceIn d = some i)
    (hk : o.indexIn b d = some k) : o.operationIn b d = (d.operationsOf i)[k]? := by
  obtain ⟨q, hq, hqk⟩ := (indexIn_eq_some_iff hi).1 hk
  simp [BindingOperation.operationIn, hi, hq, Description.operation?_eq_bind, hqk]

/-! ## What each assertion says -/

/-- Where every reference of the description resolves, what a binding
operation refers to is an operation of the interface. -/
theorem exists_operationIndex? (hb : b ∈ d.bindings) (hi : b.interfaceIn d = some i)
    (hresolve : Check.references d = []) (ho : o ∈ b.operations) (hq : o.operation = some q) :
    ∃ k, d.operationIndex? i q = some k := by
  have hbound : Check.boundReferences d i b = [] := by
    simp only [Check.references, List.append_eq_nil_iff, List.flatMap_eq_nil_iff] at hresolve
    have h := hresolve.1.2 b hb
    rwa [Check.bindingReferences, hi] at h
  simp only [Check.boundReferences, List.append_eq_nil_iff, List.flatMap_eq_nil_iff] at hbound
  have h := Check.unresolved_eq_nil_iff.1 (hbound.2 o ho).1 q (by simp [hq])
  rw [Description.operation?_eq_bind] at h
  cases hk : d.operationIndex? i q with
  | none => simp [hk] at h
  | some k => exact ⟨k, rfl⟩

/-- A binding is complete if it binds every place. -/
theorem bindingCompleteness_eq_nil_iff (hi : b.interfaceIn d = some i) :
    Check.bindingCompleteness d b = [] ↔
      ∀ k < (d.operationsOf i).length, ∃ p, b.BindsAt d p k := by
  simp only [Check.bindingCompleteness, hi, List.map_eq_nil_iff, List.filter_eq_nil_iff,
    Bool.not_eq_true', Bool.not_eq_false, List.contains_iff_mem, Check.boundPlaces,
    List.mem_filterMap]
  constructor
  · intro h k hk
    have hmem : ((d.operationsOf i)[k], k) ∈ (d.operationsOf i).zipIdx := by
      simp [List.mem_zipIdx_iff_getElem?]
    obtain ⟨o, ho, hok⟩ := h _ hmem
    obtain ⟨p, hp⟩ := List.mem_iff_getElem?.1 ho
    exact ⟨p, o, hp, hok⟩
  · rintro h ⟨op, k⟩ hmem
    have hk : k < (d.operationsOf i).length := by
      have := List.mem_zipIdx_iff_getElem?.1 hmem
      exact (List.getElem?_eq_some_iff.1 this).1
    obtain ⟨p, o, hp, hok⟩ := h k hk
    exact ⟨o, List.mem_of_getElem? hp, hok⟩

/-- An operation that is bound at most once is bound at one place. -/
theorem place_eq_of_bindsAt {p' : Nat} (hi : b.interfaceIn d = some i)
    (honce : Check.boundOperationNames b = []) (hp : b.BindsAt d p k) (hp' : b.BindsAt d p' k) :
    p = p' := by
  have hnodup : (b.operations.filterMap (·.operation)).Nodup := by
    simpa [List.filterMap_map] using (Check.repeatedNames_eq_nil_iff _ _ _).1 honce
  obtain ⟨o, ho, hok⟩ := hp
  obtain ⟨o', ho', hok'⟩ := hp'
  obtain ⟨q, hq, hqk⟩ := (BindingOperation.indexIn_eq_some_iff hi).1 hok
  obtain ⟨q', hq', hqk'⟩ := (BindingOperation.indexIn_eq_some_iff hi).1 hok'
  obtain ⟨_, hname, _⟩ := Description.operationIndex?_eq_some_iff.1 hqk
  obtain ⟨_, hname', _⟩ := Description.operationIndex?_eq_some_iff.1 hqk'
  obtain rfl : q = q' := Option.some.inj (hname.symm.trans hname')
  exact Check.place_eq_of_nodup hnodup ho ho' hq hq'

/-! ## Names of operations -/

/-- What is bound has a name, and no operation before it has the same. -/
theorem name_of_bindsAt (hi : b.interfaceIn d = some i) (hp : b.BindsAt d p k) :
    ∃ (h : k < (d.operationsOf i).length) (q : QName), (d.operationsOf i)[k].name = some q ∧
      ∀ j (hj : j < k), (d.operationsOf i)[j].name ≠ some q := by
  obtain ⟨o, _, hok⟩ := hp
  obtain ⟨q, _, hqk⟩ := (BindingOperation.indexIn_eq_some_iff hi).1 hok
  obtain ⟨h, hname, hfirst⟩ := Description.operationIndex?_eq_some_iff.1 hqk
  exact ⟨h, q, hname, hfirst⟩

theorem names_nodup_of_bindsAt (hi : b.interfaceIn d = some i)
    (hall : ∀ k < (d.operationsOf i).length, ∃ p, b.BindsAt d p k) :
    ((d.operationsOf i).map (·.name)).Nodup := by
  unfold List.Nodup
  rw [List.pairwise_map, List.pairwise_iff_getElem]
  intro j k hj hk hjk
  obtain ⟨p, hp⟩ := hall k hk
  obtain ⟨_, q, hname, hfirst⟩ := name_of_bindsAt hi hp
  rw [hname]
  exact hfirst j hjk

/-! ## The law -/

/-- Where a binding is complete and binds no operation twice, and every
reference of the description resolves, the binding operations that refer to
something and the operations of the interface correspond one to one. Each of
the former binds one of the latter, and each of the latter is bound at one
place, inherited ones not excepted. So the operations of the interface all have
names, and these differ. -/
theorem a_sound_binding_binds_each_operation_once (hb : b ∈ d.bindings)
    (hi : b.interfaceIn d = some i) (hcomplete : Check.bindingCompleteness d b = [])
    (honce : Check.boundOperationNames b = []) (hresolve : Check.references d = []) :
    (∀ p o, b.operations[p]? = some o → o.operation.isSome = true →
      ∃ k op, b.BindsAt d p k ∧ (d.operationsOf i)[k]? = some op ∧
        o.operationIn b d = some op) ∧
    (∀ k < (d.operationsOf i).length, ∃! p, b.BindsAt d p k) ∧
    (∀ j op, ReflTransGen d.Successor i j → op ∈ j.operations →
      ∃ o ∈ b.operations, o.operationIn b d = some op) ∧
    (∀ op ∈ d.operationsOf i, op.name.isSome = true) ∧
    ((d.operationsOf i).map (·.name)).Nodup := by
  have hall := (bindingCompleteness_eq_nil_iff hi).1 hcomplete
  refine ⟨?_, ?_, ?_, ?_, names_nodup_of_bindsAt hi hall⟩
  · intro p o hp ho
    obtain ⟨q, hq⟩ := Option.isSome_iff_exists.1 ho
    obtain ⟨k, hk⟩ := exists_operationIndex? hb hi hresolve (List.mem_of_getElem? hp) hq
    have hok : o.indexIn b d = some k := (BindingOperation.indexIn_eq_some_iff hi).2 ⟨q, hq, hk⟩
    obtain ⟨hlt, _⟩ := Description.operationIndex?_eq_some_iff.1 hk
    refine ⟨k, (d.operationsOf i)[k], ⟨o, hp, hok⟩, List.getElem?_eq_getElem hlt, ?_⟩
    rw [BindingOperation.operationIn_of_indexIn hi hok, List.getElem?_eq_getElem hlt]
  · intro k hk
    obtain ⟨p, hp⟩ := hall k hk
    exact ⟨p, hp, fun p' hp' => place_eq_of_bindsAt hi honce hp' hp⟩
  · intro j op hj hop
    have hmem : op ∈ d.operationsOf i := Description.mem_operationsOf_iff.2 ⟨j, hj, hop⟩
    obtain ⟨k, hk⟩ := List.mem_iff_getElem?.1 hmem
    obtain ⟨p, o, hp, hok⟩ := hall k (List.getElem?_eq_some_iff.1 hk).1
    refine ⟨o, List.mem_of_getElem? hp, ?_⟩
    rw [BindingOperation.operationIn_of_indexIn hi hok, hk]
  · intro op hop
    obtain ⟨k, hk, rfl⟩ := List.getElem_of_mem hop
    obtain ⟨p, hp⟩ := hall k hk
    obtain ⟨_, q, hname, _⟩ := name_of_bindsAt hi hp
    rw [hname, Option.isSome_some]

/-- Inherits greet from the interface that it extends, which extends it. -/
def examplePinger : Interface :=
  ⟨some ⟨none, "Pinger"⟩, [⟨none, "Greeter"⟩], [], [],
    [⟨some ⟨none, "ping"⟩, none, [], [], []⟩]⟩

def exampleGreeter : Interface :=
  ⟨some ⟨none, "Greeter"⟩, [⟨none, "Pinger"⟩], [], [],
    [⟨some ⟨none, "greet"⟩, none, [], [], []⟩]⟩

/-- Binds both operations, in the other order, and has a binding operation
that refers to nothing. -/
def exampleBinding : Binding :=
  ⟨some ⟨none, "Bound"⟩, some ⟨none, "Greeter"⟩, none, [],
    [⟨some ⟨none, "ping"⟩, [], []⟩, ⟨none, [], []⟩, ⟨some ⟨none, "greet"⟩, [], []⟩]⟩

def exampleBound : Description :=
  ⟨none, [examplePinger, exampleGreeter], [exampleBinding], [], [], []⟩

theorem exampleBinding_binds_both_operations_once :
    exampleBinding ∈ exampleBound.bindings ∧
      exampleBinding.interfaceIn exampleBound = some exampleGreeter ∧
      Check.bindingCompleteness exampleBound exampleBinding = [] ∧
      Check.boundOperationNames exampleBinding = [] ∧ Check.references exampleBound = [] ∧
      (exampleBound.operationsOf exampleGreeter).length = 2 ∧
      (∃! p, exampleBinding.BindsAt exampleBound p 0) ∧
      (∃! p, exampleBinding.BindsAt exampleBound p 1) := by
  have hb : exampleBinding ∈ exampleBound.bindings := by decide
  have hi : exampleBinding.interfaceIn exampleBound = some exampleGreeter := by decide
  have hcomplete : Check.bindingCompleteness exampleBound exampleBinding = [] := by cbv
  have honce : Check.boundOperationNames exampleBinding = [] := by decide
  have hresolve : Check.references exampleBound = [] := by cbv
  have hlength : (exampleBound.operationsOf exampleGreeter).length = 2 := by cbv
  obtain ⟨_, hplaces, _⟩ :=
    a_sound_binding_binds_each_operation_once hb hi hcomplete honce hresolve
  exact ⟨hb, hi, hcomplete, honce, hresolve, hlength, hplaces 0 (by omega), hplaces 1 (by omega)⟩

end Wsdl.Component
