-- References that lead nowhere. A description refers to its components by name, in
-- eight ways, and looks each of them up where it is. Whatever leads nowhere there is
-- reported once, and nothing else is. What a binding refers to in its interface is
-- not looked at where the interface is unknown.
import Wsdl.Proofs.Enumeration
import Wsdl.Proofs.Validators

namespace Wsdl.Component

/-! ## Where references are -/

/-- Where an interface refers to something, by the places in its lists: in its extends
list, or in a fault reference of an operation. -/
inductive InterfaceSite where
  | extended (k : Nat)
  | operationFault (n k : Nat)

/-- Where a binding refers to something: to its interface, and to what is in that. In
the operation at `n` that is what it binds, or the fault of the reference at `k`. -/
inductive BindingSite where
  | interface
  | fault (k : Nat)
  | operation (n : Nat) (k : Option Nat)

/-- Where a service refers to something: to its interface, and to the binding of an
endpoint. -/
inductive ServiceSite where
  | interface
  | endpoint (k : Nat)

/-- A site in the interface, binding or service at a place. -/
inductive Site where
  | ofInterface (m : Nat) (s : InterfaceSite)
  | ofBinding (m : Nat) (s : BindingSite)
  | ofService (m : Nat) (s : ServiceSite)

/-! ## Which of them lead nowhere -/

section

variable (d : Description)

/-- At a site of the interface, a component of some kind is referred to by a name that
leads to none. -/
inductive Interface.Dangles (i : Interface) : InterfaceSite → Check.ReferenceKind → QName → Prop
  | extended {k : Nat} {q : QName} :
      i.extended[k]? = some q → d.interface? q = none → i.Dangles (.extended k) .interface q
  | operationFault {n k : Nat} {o : Operation} {f : FaultReference} {q : QName} :
      i.operations[n]? = some o → o.faults[k]? = some f → f.fault = some q →
        d.fault? i q = none → i.Dangles (.operationFault n k) .fault q

inductive Binding.Dangles (b : Binding) : BindingSite → Check.ReferenceKind → QName → Prop
  | interface {q : QName} :
      b.interface = some q → b.interfaceIn d = none → b.Dangles .interface .interface q
  | fault {i : Interface} {k : Nat} {f : BindingFault} {q : QName} :
      b.interfaceIn d = some i → b.faults[k]? = some f → f.fault = some q →
        f.faultIn b d = none → b.Dangles (.fault k) .fault q
  | operation {i : Interface} {n : Nat} {o : BindingOperation} {q : QName} :
      b.interfaceIn d = some i → b.operations[n]? = some o → o.operation = some q →
        o.operationIn b d = none → b.Dangles (.operation n none) .operation q
  | operationFault {i : Interface} {n k : Nat} {o : BindingOperation} {f : FaultReference}
      {q : QName} :
      b.interfaceIn d = some i → b.operations[n]? = some o → o.faults[k]? = some f →
        f.fault = some q → d.fault? i q = none → b.Dangles (.operation n (some k)) .fault q

inductive Service.Dangles (s : Service) : ServiceSite → Check.ReferenceKind → QName → Prop
  | interface {q : QName} :
      s.interface = some q → s.interfaceIn d = none → s.Dangles .interface .interface q
  | endpoint {k : Nat} {e : Endpoint} {q : QName} :
      s.endpoints[k]? = some e → e.binding = some q → e.bindingIn d = none →
        s.Dangles (.endpoint k) .binding q

inductive Description.Dangles : Site → Check.ReferenceKind → QName → Prop
  | ofInterface {m : Nat} {i : Interface} {s : InterfaceSite} {r : Check.ReferenceKind}
      {q : QName} :
      d.interfaces[m]? = some i → i.Dangles d s r q → Dangles (.ofInterface m s) r q
  | ofBinding {m : Nat} {b : Binding} {s : BindingSite} {r : Check.ReferenceKind}
      {q : QName} :
      d.bindings[m]? = some b → b.Dangles d s r q → Dangles (.ofBinding m s) r q
  | ofService {m : Nat} {v : Service} {s : ServiceSite} {r : Check.ReferenceKind}
      {q : QName} :
      d.services[m]? = some v → v.Dangles d s r q → Dangles (.ofService m s) r q

end

/-- What is found at a site, as it is reported. -/
def Reported {σ : Type} (P : σ → Check.ReferenceKind → QName → Prop) (s : σ) (v : Violation) :
    Prop :=
  ∃ r q, P s r q ∧ v = Rule.referenceResolves.violation [r.text, q.text]

/-! ## What is reported -/

section

variable {σ α : Type} {r : σ → σ → Prop}

/-- Of the names at some places, those are reported that lead nowhere. -/
theorem enumerates_unresolved {P : σ → QName → Prop} {names : List QName}
    (h : Enumerates r P names) (k : Check.ReferenceKind) (find? : QName → Option α) :
    Enumerates r (Reported fun s k' q => k' = k ∧ P s q ∧ find? q = none)
      (Check.unresolved k find? names) := by
  refine ((h.filter fun q => (find? q).isNone).map _).congr fun s v => ?_
  constructor
  · rintro ⟨q, ⟨hq, hnone⟩, rfl⟩
    exact ⟨k, q, ⟨rfl, hq, Option.isNone_iff_eq_none.1 hnone⟩, rfl⟩
  · rintro ⟨_, q, ⟨rfl, hq, hnone⟩, rfl⟩
    exact ⟨q, ⟨hq, Option.isNone_iff_eq_none.2 hnone⟩, rfl⟩

theorem enumerates_unresolved_filterMap {β : Type} (xs : List β) (name? : β → Option QName)
    (k : Check.ReferenceKind) (find? : QName → Option α) :
    Enumerates (· < ·) (Reported fun (n : Nat) k' q =>
        k' = k ∧ (∃ x, xs[n]? = some x ∧ name? x = some q) ∧ find? q = none)
      (Check.unresolved k find? (xs.filterMap name?)) :=
  enumerates_unresolved ((enumerates_getElem? xs).filterMap name?) k find?

end

section

variable (d : Description)

theorem enumerates_interfaceReferences (i : Interface) :
    Enumerates (· ≠ ·) (Reported (i.Dangles d)) (Check.interfaceReferences d i) := by
  have hextended := (enumerates_unresolved (enumerates_getElem? i.extended) .interface
    d.interface?).relabel fun _ _ => InterfaceSite.extended.inj
  have hfaults := ((enumerates_getElem? i.operations).flatMap fun o =>
    enumerates_unresolved_filterMap o.faults (·.fault) .fault (d.fault? i)).relabel
      (Function.Injective2.uncurry fun _ _ _ _ => InterfaceSite.operationFault.inj)
  refine (hextended.append hfaults ?_).congr fun s v => ?_
  · rintro _ _ _ _ ⟨_, rfl, _⟩ ⟨_, rfl, _⟩ h
    cases h
  constructor
  · rintro (⟨k, rfl, _, q, ⟨rfl, hq, hnone⟩, rfl⟩ |
      ⟨⟨n, k⟩, rfl, o, ho, _, q, ⟨rfl, ⟨f, hf, hq⟩, hnone⟩, rfl⟩)
    · exact ⟨_, q, .extended hq hnone, rfl⟩
    · exact ⟨_, q, .operationFault ho hf hq hnone, rfl⟩
  · rintro ⟨_, _, hdangles, rfl⟩
    cases hdangles with
    | extended hq hnone => exact Or.inl ⟨_, rfl, _, _, ⟨rfl, hq, hnone⟩, rfl⟩
    | operationFault ho hf hq hnone =>
      exact Or.inr ⟨(_, _), rfl, _, ho, _, _, ⟨rfl, ⟨_, hf, hq⟩, hnone⟩, rfl⟩

section

variable {d : Description} {b : Binding} {i : Interface} {q : QName}

theorem BindingFault.faultIn_eq {f : BindingFault} (hi : b.interfaceIn d = some i)
    (hq : f.fault = some q) : f.faultIn b d = d.fault? i q := by
  simp [BindingFault.faultIn, hi, hq]

theorem BindingOperation.operationIn_eq {o : BindingOperation} (hi : b.interfaceIn d = some i)
    (hq : o.operation = some q) : o.operationIn b d = d.operation? i q := by
  simp [BindingOperation.operationIn, hi, hq]

/-- What a binding refers to is looked up in its interface, where it is found or missed
as from the binding. -/
theorem enumerates_boundReferences (hi : b.interfaceIn d = some i) :
    Enumerates (· ≠ ·) (Reported (b.Dangles d)) (Check.boundReferences d i b) := by
  have hfaults := (enumerates_unresolved_filterMap b.faults (·.fault) .fault (d.fault? i)).relabel
    fun _ _ => BindingSite.fault.inj
  have hoperation (o : BindingOperation) :=
    (enumerates_unresolved (enumerates_toList none o.operation) .operation (d.operation? i)).append
      ((enumerates_unresolved_filterMap o.faults (·.fault) .fault (d.fault? i)).relabel
        fun _ _ => Option.some.inj) (by
          rintro _ _ _ _ ⟨_, _, ⟨rfl, ⟨rfl, _⟩, _⟩, _⟩ ⟨_, rfl, _⟩ h
          cases h)
  have hoperations := ((enumerates_getElem? b.operations).flatMap hoperation).relabel
    (Function.Injective2.uncurry fun _ _ _ _ => BindingSite.operation.inj)
  refine (hfaults.append hoperations ?_).congr fun s v => ?_
  · rintro _ _ _ _ ⟨_, rfl, _⟩ ⟨_, rfl, _⟩ h
    cases h
  constructor
  · rintro (⟨k, rfl, _, q, ⟨rfl, ⟨f, hf, hq⟩, hnone⟩, rfl⟩ |
      ⟨⟨n, _⟩, rfl, o, ho, ⟨_, q, ⟨rfl, ⟨rfl, hq⟩, hnone⟩, rfl⟩ |
        ⟨k, rfl, _, q, ⟨rfl, ⟨f, hf, hq⟩, hnone⟩, rfl⟩⟩)
    · exact ⟨_, q, .fault hi hf hq (BindingFault.faultIn_eq hi hq ▸ hnone), rfl⟩
    · exact ⟨_, q, .operation hi ho hq (BindingOperation.operationIn_eq hi hq ▸ hnone), rfl⟩
    · exact ⟨_, q, .operationFault hi ho hf hq hnone, rfl⟩
  · rintro ⟨_, _, hdangles, rfl⟩
    cases hdangles with
    | interface _ hnone => simp [hi] at hnone
    | fault _ hf hq hnone =>
      rw [BindingFault.faultIn_eq hi hq] at hnone
      exact Or.inl ⟨_, rfl, _, _, ⟨rfl, ⟨_, hf, hq⟩, hnone⟩, rfl⟩
    | operation _ ho hq hnone =>
      rw [BindingOperation.operationIn_eq hi hq] at hnone
      exact Or.inr ⟨(_, none), rfl, _, ho, Or.inl ⟨_, _, ⟨rfl, ⟨rfl, hq⟩, hnone⟩, rfl⟩⟩
    | operationFault hi' ho hf hq hnone =>
      obtain rfl := Option.some.inj (hi.symm.trans hi')
      exact Or.inr ⟨(_, some _), rfl, _, ho,
        Or.inr ⟨_, rfl, _, _, ⟨rfl, ⟨_, hf, hq⟩, hnone⟩, rfl⟩⟩

end

theorem enumerates_bindingReferences (b : Binding) :
    Enumerates (· ≠ ·) (Reported (b.Dangles d)) (Check.bindingReferences d b) := by
  unfold Check.bindingReferences
  cases hi : b.interfaceIn d with
  | some i => exact enumerates_boundReferences hi
  | none =>
    refine (enumerates_unresolved (enumerates_toList BindingSite.interface b.interface) .interface
      d.interface?).congr fun s v => ?_
    constructor
    · rintro ⟨_, q, ⟨rfl, ⟨rfl, hq⟩, _⟩, rfl⟩
      exact ⟨_, q, .interface hq hi, rfl⟩
    · rintro ⟨_, _, hdangles, rfl⟩
      cases hdangles with
      | interface hq _ =>
        exact ⟨_, _, ⟨rfl, ⟨rfl, hq⟩, Option.bind_eq_none_iff.1 hi _ hq⟩, rfl⟩
      | fault hi' _ _ _ => simp [hi] at hi'
      | operation hi' _ _ _ => simp [hi] at hi'
      | operationFault hi' _ _ _ _ => simp [hi] at hi'

theorem enumerates_serviceReferences (v : Service) :
    Enumerates (· ≠ ·) (Reported (v.Dangles d)) (Check.serviceReferences d v) := by
  have hendpoints := (enumerates_unresolved_filterMap v.endpoints (·.binding) .binding
    d.binding?).relabel fun _ _ => ServiceSite.endpoint.inj
  refine ((enumerates_unresolved (enumerates_toList ServiceSite.interface v.interface) .interface
    d.interface?).append hendpoints ?_).congr fun s w => ?_
  · rintro _ _ _ _ ⟨_, _, ⟨rfl, ⟨rfl, _⟩, _⟩, _⟩ ⟨_, rfl, _⟩ h
    cases h
  constructor
  · rintro (⟨_, q, ⟨rfl, ⟨rfl, hq⟩, hnone⟩, rfl⟩ | ⟨k, rfl, _, q, ⟨rfl, ⟨e, he, hq⟩, hnone⟩, rfl⟩)
    · refine ⟨_, q, .interface hq ?_, rfl⟩
      rwa [Service.interfaceIn, hq]
    · refine ⟨_, q, .endpoint he hq ?_, rfl⟩
      rwa [Endpoint.bindingIn, hq]
  · rintro ⟨_, _, hdangles, rfl⟩
    cases hdangles with
    | interface hq hnone =>
      exact Or.inl ⟨_, _, ⟨rfl, ⟨rfl, hq⟩, Option.bind_eq_none_iff.1 hnone _ hq⟩, rfl⟩
    | endpoint he hq hnone =>
      exact Or.inr ⟨_, rfl, _, _, ⟨rfl, ⟨_, he, hq⟩, Option.bind_eq_none_iff.1 hnone _ hq⟩, rfl⟩

theorem enumerates_references :
    Enumerates (· ≠ ·) (Reported d.Dangles) (Check.references d) := by
  have hinterfaces := ((enumerates_getElem? d.interfaces).flatMap
    (enumerates_interfaceReferences d)).relabel
      (Function.Injective2.uncurry fun _ _ _ _ => Site.ofInterface.inj)
  have hbindings := ((enumerates_getElem? d.bindings).flatMap
    (enumerates_bindingReferences d)).relabel
      (Function.Injective2.uncurry fun _ _ _ _ => Site.ofBinding.inj)
  have hservices := ((enumerates_getElem? d.services).flatMap
    (enumerates_serviceReferences d)).relabel
      (Function.Injective2.uncurry fun _ _ _ _ => Site.ofService.inj)
  refine ((hinterfaces.append hbindings ?_).append hservices ?_).congr fun s v => ?_
  · rintro _ _ _ _ ⟨_, rfl, _⟩ ⟨_, rfl, _⟩ h
    cases h
  · rintro _ _ _ _ (⟨_, rfl, _⟩ | ⟨_, rfl, _⟩) ⟨_, rfl, _⟩ h
    · cases h
    · cases h
  constructor
  · rintro ((⟨_, rfl, i, hi, _, q, hdangles, rfl⟩ | ⟨_, rfl, b, hb, _, q, hdangles, rfl⟩) |
      ⟨_, rfl, w, hw, _, q, hdangles, rfl⟩)
    · exact ⟨_, q, .ofInterface hi hdangles, rfl⟩
    · exact ⟨_, q, .ofBinding hb hdangles, rfl⟩
    · exact ⟨_, q, .ofService hw hdangles, rfl⟩
  · rintro ⟨_, _, hdangles, rfl⟩
    cases hdangles with
    | ofInterface hi hdangles =>
      exact Or.inl (Or.inl ⟨(_, _), rfl, _, hi, _, _, hdangles, rfl⟩)
    | ofBinding hb hdangles =>
      exact Or.inl (Or.inr ⟨(_, _), rfl, _, hb, _, _, hdangles, rfl⟩)
    | ofService hw hdangles => exact Or.inr ⟨(_, _), rfl, _, hw, _, _, hdangles, rfl⟩

end

/-! ## When nothing dangles -/

section

variable (d : Description)

structure Interface.AllLead (i : Interface) : Prop where
  extended : ∀ q ∈ i.extended, (d.interface? q).isSome = true
  operationFaults : ∀ o ∈ i.operations, ∀ f ∈ o.faults, ∀ q, f.fault = some q →
    (d.fault? i q).isSome = true

/-- What a binding that names its interface refers to is all there. -/
structure Binding.AllLead (b : Binding) : Prop where
  interface : b.interface.isSome = true → (b.interfaceIn d).isSome = true
  faults : b.interface.isSome = true → ∀ f ∈ b.faults, f.fault.isSome = true →
    (f.faultIn b d).isSome = true
  operations : b.interface.isSome = true → ∀ o ∈ b.operations, o.operation.isSome = true →
    (o.operationIn b d).isSome = true
  operationFaults : ∀ i, b.interfaceIn d = some i → ∀ o ∈ b.operations, ∀ f ∈ o.faults,
    ∀ q, f.fault = some q → (d.fault? i q).isSome = true

structure Service.AllLead (s : Service) : Prop where
  interface : s.interface.isSome = true → (s.interfaceIn d).isSome = true
  endpoints : ∀ e ∈ s.endpoints, e.binding.isSome = true → (e.bindingIn d).isSome = true

/-- Each reference leads to something, where it is looked up from its component. -/
structure Description.AllLead : Prop where
  interfaces : ∀ i ∈ d.interfaces, i.AllLead d
  bindings : ∀ b ∈ d.bindings, b.AllLead d
  services : ∀ s ∈ d.services, s.AllLead d

variable {d : Description}

theorem Interface.not_dangles_iff {i : Interface} :
    (∀ s r q, ¬ i.Dangles d s r q) ↔ i.AllLead d := by
  constructor
  · intro h
    refine ⟨fun q hq => ?_, fun o ho f hf q hfq => ?_⟩
    · obtain ⟨k, hk⟩ := List.mem_iff_getElem?.1 hq
      exact Option.isSome_iff_ne_none.2 fun hnone => h _ _ _ (.extended hk hnone)
    · obtain ⟨n, hn⟩ := List.mem_iff_getElem?.1 ho
      obtain ⟨k, hk⟩ := List.mem_iff_getElem?.1 hf
      exact Option.isSome_iff_ne_none.2 fun hnone => h _ _ _ (.operationFault hn hk hfq hnone)
  · intro h s r q hdangles
    cases hdangles with
    | extended hq hnone => simpa [hnone] using h.extended _ (List.mem_of_getElem? hq)
    | operationFault ho hf hfq hnone =>
      simpa [hnone] using h.operationFaults _ (List.mem_of_getElem? ho) _
        (List.mem_of_getElem? hf) _ hfq

theorem Binding.interface_isSome {b : Binding} {i : Interface} (hi : b.interfaceIn d = some i) :
    b.interface.isSome = true := by
  obtain ⟨_, hq, -⟩ := Option.bind_eq_some_iff.1 hi
  exact Option.isSome_of_eq_some hq

theorem Binding.not_dangles_iff {b : Binding} :
    (∀ s r q, ¬ b.Dangles d s r q) ↔ b.AllLead d := by
  constructor
  · intro h
    have hinterface : b.interface.isSome = true → (b.interfaceIn d).isSome = true := by
      intro hb
      obtain ⟨q, hq⟩ := Option.isSome_iff_exists.1 hb
      exact Option.isSome_iff_ne_none.2 fun hnone => h _ _ _ (.interface hq hnone)
    refine ⟨hinterface, fun hb f hf hfq => ?_, fun hb o ho hoq => ?_,
      fun i hi o ho f hf q hfq => ?_⟩
    · obtain ⟨i, hi⟩ := Option.isSome_iff_exists.1 (hinterface hb)
      obtain ⟨k, hk⟩ := List.mem_iff_getElem?.1 hf
      obtain ⟨q, hq⟩ := Option.isSome_iff_exists.1 hfq
      exact Option.isSome_iff_ne_none.2 fun hnone => h _ _ _ (.fault hi hk hq hnone)
    · obtain ⟨i, hi⟩ := Option.isSome_iff_exists.1 (hinterface hb)
      obtain ⟨n, hn⟩ := List.mem_iff_getElem?.1 ho
      obtain ⟨q, hq⟩ := Option.isSome_iff_exists.1 hoq
      exact Option.isSome_iff_ne_none.2 fun hnone => h _ _ _ (.operation hi hn hq hnone)
    · obtain ⟨n, hn⟩ := List.mem_iff_getElem?.1 ho
      obtain ⟨k, hk⟩ := List.mem_iff_getElem?.1 hf
      exact Option.isSome_iff_ne_none.2 fun hnone => h _ _ _ (.operationFault hi hn hk hfq hnone)
  · intro h s r q hdangles
    cases hdangles with
    | interface hq hnone => simpa [hnone] using h.interface (Option.isSome_of_eq_some hq)
    | fault hi hf hq hnone =>
      simpa [hnone] using h.faults (Binding.interface_isSome hi) _ (List.mem_of_getElem? hf)
        (Option.isSome_of_eq_some hq)
    | operation hi ho hq hnone =>
      simpa [hnone] using h.operations (Binding.interface_isSome hi) _ (List.mem_of_getElem? ho)
        (Option.isSome_of_eq_some hq)
    | operationFault hi ho hf hfq hnone =>
      simpa [hnone] using h.operationFaults _ hi _ (List.mem_of_getElem? ho) _
        (List.mem_of_getElem? hf) _ hfq

theorem Service.not_dangles_iff {v : Service} :
    (∀ s r q, ¬ v.Dangles d s r q) ↔ v.AllLead d := by
  constructor
  · intro h
    refine ⟨fun hv => ?_, fun e he heq => ?_⟩
    · obtain ⟨q, hq⟩ := Option.isSome_iff_exists.1 hv
      exact Option.isSome_iff_ne_none.2 fun hnone => h _ _ _ (.interface hq hnone)
    · obtain ⟨k, hk⟩ := List.mem_iff_getElem?.1 he
      obtain ⟨q, hq⟩ := Option.isSome_iff_exists.1 heq
      exact Option.isSome_iff_ne_none.2 fun hnone => h _ _ _ (.endpoint hk hq hnone)
  · intro h s r q hdangles
    cases hdangles with
    | interface hq hnone => simpa [hnone] using h.interface (Option.isSome_of_eq_some hq)
    | endpoint he hq hnone =>
      simpa [hnone] using h.endpoints _ (List.mem_of_getElem? he) (Option.isSome_of_eq_some hq)

theorem Description.not_dangles_iff : (∀ s r q, ¬ d.Dangles s r q) ↔ d.AllLead := by
  constructor
  · intro h
    refine ⟨fun i hi => ?_, fun b hb => ?_, fun v hv => ?_⟩
    · obtain ⟨m, hm⟩ := List.mem_iff_getElem?.1 hi
      exact Interface.not_dangles_iff.1 fun s r q hdangles => h _ _ _ (.ofInterface hm hdangles)
    · obtain ⟨m, hm⟩ := List.mem_iff_getElem?.1 hb
      exact Binding.not_dangles_iff.1 fun s r q hdangles => h _ _ _ (.ofBinding hm hdangles)
    · obtain ⟨m, hm⟩ := List.mem_iff_getElem?.1 hv
      exact Service.not_dangles_iff.1 fun s r q hdangles => h _ _ _ (.ofService hm hdangles)
  · intro h s r q hdangles
    cases hdangles with
    | ofInterface hi hdangles =>
      exact Interface.not_dangles_iff.2 (h.interfaces _ (List.mem_of_getElem? hi)) _ _ _ hdangles
    | ofBinding hb hdangles =>
      exact Binding.not_dangles_iff.2 (h.bindings _ (List.mem_of_getElem? hb)) _ _ _ hdangles
    | ofService hv hdangles =>
      exact Service.not_dangles_iff.2 (h.services _ (List.mem_of_getElem? hv)) _ _ _ hdangles

end

/-! ## The law -/

open Check (Inspection)

/-- References are satisfied where each of them leads to something. Otherwise each one
that does not is reported once, under the name that leads nowhere, and of a binding
whose interface is unknown nothing but that. -/
theorem each_reference_that_leads_nowhere_is_reported_once (d : Description) :
    ((Inspection.references d).holds = true ↔ d.AllLead) ∧
      Enumerates (· ≠ ·) (Reported d.Dangles) (Inspection.references d).reports := by
  have htells := Inspection.tells_references d
  have hall := enumerates_references d
  rw [htells.holds_iff, htells.reports_eq]
  refine ⟨?_, hall⟩
  rw [hall.eq_nil_iff, ← Description.not_dangles_iff]
  constructor
  · intro h s r q hdangles
    exact h s _ ⟨r, q, hdangles, rfl⟩
  · rintro h s _ ⟨r, q, hdangles, -⟩
    exact h s r q hdangles

/-- Binds a fault twice, of an interface that is not there. -/
def exampleLostBinding : Binding :=
  ⟨some ⟨none, "Lost"⟩, some ⟨none, "Missing"⟩, none,
    [⟨some ⟨none, "oops"⟩⟩, ⟨some ⟨none, "oops"⟩⟩], []⟩

/-- Offers a binding that is not there, at two endpoints. -/
def exampleLostService : Service :=
  ⟨some ⟨none, "Shop"⟩, none,
    [⟨some "front", some ⟨none, "Gone"⟩, none⟩, ⟨some "back", some ⟨none, "Gone"⟩, none⟩]⟩

/-- The faults are not looked at, and each endpoint counts. -/
example : Check.references ⟨none, [], [exampleLostBinding], [exampleLostService], [], []⟩
    = [Rule.referenceResolves.violation ["interface", "Missing"],
      Rule.referenceResolves.violation ["binding", "Gone"],
      Rule.referenceResolves.violation ["binding", "Gone"]] := by
  decide

end Wsdl.Component
