-- Names as messages show them. The braces around a namespace are not escaped, and the
-- namespace may hold braces of its own, but an NCName holds none. So the last closing
-- brace ends the namespace, and what is shown is the text of one name only. In a
-- description that was read every component has such a name, and the reports on it tell
-- the names of its components apart.
import Mathlib.Logic.ExistsUnique
import Wsdl.Proofs.ImportedSchemas
import Wsdl.Proofs.Labels
import Wsdl.Proofs.NameGrammar
import Wsdl.Proofs.RepeatedEntries
import Wsdl.Proofs.Templates
import Wsdl.Proofs.Thoroughness

namespace Wsdl

/-! ## Texts of names -/

/-- Where a character is not behind its last place, it is there once. -/
theorem eq_of_append_cons_eq {α : Type} {x : α} {as bs cs ds : List α} (hbs : x ∉ bs)
    (hds : x ∉ ds) (h : as ++ x :: bs = cs ++ x :: ds) : as = cs ∧ bs = ds := by
  rcases List.append_eq_append_iff.1 h with ⟨es, rfl, hes⟩ | ⟨es, rfl, hes⟩
  · cases es with
    | nil => simpa using hes
    | cons e es =>
      obtain ⟨rfl, rfl⟩ := List.cons.inj hes
      simp at hbs
  · cases es with
    | nil => simpa [eq_comm] using hes
    | cons e es =>
      obtain ⟨rfl, rfl⟩ := List.cons.inj hes
      simp at hds

namespace QName

section

variable {p q : QName} {ns : String}

theorem toList_text_of_some (h : q.space = some ns) :
    q.text.toList = '\x7b' :: (ns.toList ++ '\x7d' :: q.localName.toList) := by
  simp [text, h]

theorem text_of_none (h : q.space = none) : q.text = q.localName := by
  simp [text, h]

/-- Without a namespace there is no brace in front. -/
theorem text_ne_of_none (hp : NCName p.localName.toList) (hpspace : p.space = none)
    (hqspace : q.space = some ns) : p.text ≠ q.text := by
  intro h
  have hbrace : '\x7b' ∉ p.localName.toList := hp.not_mem (by decide)
  rw [← text_of_none hpspace, h, toList_text_of_some hqspace] at hbrace
  exact hbrace List.mem_cons_self

/-- Names that are shown alike are the same, whatever their namespaces hold. -/
theorem eq_of_text_eq (hp : NCName p.localName.toList) (hq : NCName q.localName.toList)
    (h : p.text = q.text) : p = q := by
  cases hpspace : p.space with
  | none =>
    cases hqspace : q.space with
    | none =>
      rw [text_of_none hpspace, text_of_none hqspace] at h
      exact congrArg₂ QName.mk (hpspace.trans hqspace.symm) h
    | some ns => exact absurd h (text_ne_of_none hp hpspace hqspace)
  | some ns =>
    cases hqspace : q.space with
    | none => exact absurd h.symm (text_ne_of_none hq hqspace hpspace)
    | some ns' =>
      have htext := congrArg String.toList h
      rw [toList_text_of_some hpspace, toList_text_of_some hqspace] at htext
      obtain ⟨hns, hlocal⟩ := eq_of_append_cons_eq (hp.not_mem (by decide))
        (hq.not_mem (by decide)) (List.cons.inj htext).2
      rw [String.toList_inj] at hns hlocal
      exact congrArg₂ QName.mk (by rw [hpspace, hqspace, hns]) hlocal

end

end QName

/-! ## Names of components -/

namespace Component

/-- The local name is an NCName, if there is a name. -/
def HasNCName (n : Option QName) : Prop := ∀ q, n = some q → NCName q.localName.toList

theorem text_ne_anonymous {q : QName} (hq : NCName q.localName.toList) : q.text ≠ anonymous := by
  intro h
  cases hspace : q.space with
  | none =>
    rw [← QName.text_of_none hspace, h] at hq
    exact hq.not_mem (c := '(') (by decide) (by decide)
  | some ns =>
    have htext := congrArg String.toList h
    rw [QName.toList_text_of_some hspace] at htext
    exact absurd (List.cons.inj htext).1 (by decide)

/-- What has no name is not shown as if it had one either. -/
theorem eq_of_nameText_eq {m n : Option QName} (hm : HasNCName m) (hn : HasNCName n)
    (h : nameText m = nameText n) : m = n := by
  cases m with
  | none =>
    cases n with
    | none => rfl
    | some q => exact absurd h.symm (text_ne_anonymous (hn q rfl))
  | some p =>
    cases n with
    | none => exact absurd h (text_ne_anonymous (hm p rfl))
    | some q => exact congrArg some (QName.eq_of_text_eq (hm p rfl) (hn q rfl) h)

/-- A name that is shown by itself, as one in no namespace. -/
def inNoSpace (l : Option String) : Option QName := l.map (QName.mk none)

theorem nameText_inNoSpace (l : Option String) : nameText (inNoSpace l) = l.getD anonymous := by
  cases l with
  | none => rfl
  | some l => rfl

def Interface.names (i : Interface) : List (Option QName) :=
  i.name :: (i.faults.map (·.name) ++ i.operations.map (·.name))

def Service.names (s : Service) : List (Option QName) :=
  s.name :: s.endpoints.map fun e => inNoSpace e.name

/-- The names of all components that have one. -/
def Description.names (d : Description) : List (Option QName) :=
  d.interfaces.flatMap Interface.names ++ d.bindings.map (·.name)
    ++ d.services.flatMap Service.names

section

variable {d : Description} {i : Interface} {n : Option QName}

theorem Description.mem_names_of_interface (hi : i ∈ d.interfaces) (hn : n ∈ i.names) :
    n ∈ d.names :=
  List.mem_append_left _ (List.mem_append_left _ (List.mem_flatMap.2 ⟨i, hi, hn⟩))

theorem Description.mem_names_of_binding {b : Binding} (hb : b ∈ d.bindings) :
    b.name ∈ d.names :=
  List.mem_append_left _ (List.mem_append_right _ (List.mem_map_of_mem hb))

theorem Description.mem_names_of_service {s : Service} (hs : s ∈ d.services) (hn : n ∈ s.names) :
    n ∈ d.names :=
  List.mem_append_right _ (List.mem_flatMap.2 ⟨s, hs, hn⟩)

theorem Interface.name_mem_names (i : Interface) : i.name ∈ i.names := List.mem_cons_self

theorem Interface.mem_names_of_fault (hn : n ∈ i.faults.map (·.name)) : n ∈ i.names :=
  List.mem_cons_of_mem _ (List.mem_append_left _ hn)

theorem Interface.mem_names_of_operation (hn : n ∈ i.operations.map (·.name)) : n ∈ i.names :=
  List.mem_cons_of_mem _ (List.mem_append_right _ hn)

/-- An operation that is inherited is in the interface that it is inherited from. -/
theorem Description.mem_names_of_mem_operationsOf {o : Operation} (hi : i ∈ d.interfaces)
    (ho : o ∈ d.operationsOf i) : o.name ∈ d.names := by
  obtain ⟨j, hij, hoj⟩ := mem_operationsOf_iff.1 ho
  have hj : j ∈ d.interfaces := mem_interfaces_of_steps hij hi
  exact mem_names_of_interface hj (Interface.mem_names_of_operation (List.mem_map_of_mem hoj))

theorem mem_interfaces_of_interfaceIn {q : Option QName} (h : q.bind d.interface? = some i) :
    i ∈ d.interfaces := by
  obtain ⟨_, _, hq⟩ := Option.bind_eq_some_iff.1 h
  exact Description.mem_of_interface? hq

end

end Component

/-! ## Reports that show names -/

/-- Which arguments of the rule's violations are names of components. References are
not among them, for they may lead nowhere. -/
def Rule.nameArguments : Rule → List Nat
  | interfaceIsAcyclic | interfaceNameIsUnique | bindingNameIsUnique | serviceNameIsUnique
  | boundFaultHasInterface => [0]
  | operationNameIsUnique | faultNameIsUnique | bindingIsComplete => [0, 1]
  | styleIsAbsolute | patternIsAbsolute | messageLabelIsUnique | bindingTypeIsAbsolute
  | faultIsBoundOnce | operationIsBoundOnce | addressIsAbsolute | defaultStyleIsAbsolute
  | messageLabelIsKnown | faultLabelIsKnown => [1]
  | faultReferenceIsUnique => [2]
  | endpointMatchesService => [0, 1, 2, 3]
  | _ => []

/-- Which arguments of a violation are names of components. -/
def Violation.nameArguments (v : Violation) : List Nat :=
  ((Rule.ofId? v.id).map Rule.nameArguments).getD []

theorem Rule.nameArguments_violationAt (r : Rule) (place : Locator) (args : List String) :
    (r.violationAt place args).nameArguments = r.nameArguments := by
  rw [Violation.nameArguments, violationAt, ofId?_id]
  rfl

/-- An argument is the text of one of some names. -/
def Violation.ShowsAt (names : List (Option QName)) (v : Violation) (k : Nat)
    (n : Option QName) : Prop := n ∈ names ∧ v.args[k]? = some (Component.nameText n)

/-- Equal arguments are texts of one name. -/
theorem Violation.ShowsAt.eq {names : List (Option QName)} {u v : Violation} {k : Nat}
    {m n : Option QName} (hnames : ∀ n ∈ names, Component.HasNCName n) (hargs : u.args = v.args)
    (hm : u.ShowsAt names k m) (hn : v.ShowsAt names k n) : m = n := by
  have htext : some (Component.nameText m) = some (Component.nameText n) := by
    rw [← hm.2, ← hn.2, hargs]
  exact Component.eq_of_nameText_eq (hnames m hm.1) (hnames n hn.1) (Option.some.inj htext)

namespace Check

open Component

/-- The arguments that are names of components are texts of these. -/
def Shows (names : List (Option QName)) (vs : List Violation) : Prop :=
  ∀ v ∈ vs, ∀ k ∈ v.nameArguments, ∃ n, v.ShowsAt names k n

section

variable {names : List (Option QName)} {r : Rule} {α : Type}

@[simp] theorem shows_append {vs ws : List Violation} :
    Shows names (vs ++ ws) ↔ Shows names vs ∧ Shows names ws := List.forall_mem_append

@[simp] theorem shows_flatMap {xs : List α} {f : α → List Violation} :
    Shows names (xs.flatMap f) ↔ ∀ x ∈ xs, Shows names (f x) := by
  simp only [Shows, List.mem_flatMap]
  constructor
  · exact fun h x hx v hv => h v ⟨x, hx, hv⟩
  · rintro h v ⟨x, hx, hv⟩
    exact h x hx v hv

theorem shows_nil : Shows names [] := List.forall_mem_nil _

theorem Shows.mono {names' : List (Option QName)} {vs : List Violation} (h : Shows names vs)
    (hnames : names ⊆ names') : Shows names' vs := fun v hv k hk =>
  let ⟨n, hn, harg⟩ := h v hv k hk
  ⟨n, hnames hn, harg⟩

/-- If the names have NCNames, each argument is the text of just one. -/
theorem Shows.existsUnique {vs : List Violation} (h : Shows names vs)
    (hnames : ∀ n ∈ names, HasNCName n) :
    ∀ v ∈ vs, ∀ k ∈ v.nameArguments, ∃! n, v.ShowsAt names k n := by
  intro v hv k hk
  obtain ⟨n, hn⟩ := h v hv k hk
  exact ⟨n, hn, fun m hm => hm.eq hnames rfl hn⟩

theorem shows_singleton {place : Locator} {args : List String}
    (h : ∀ k ∈ r.nameArguments, ∃ n ∈ names, args[k]? = some (nameText n)) :
    Shows names [r.violationAt place args] := by
  intro v hv k hk
  obtain rfl := List.mem_singleton.1 hv
  rw [r.nameArguments_violationAt] at hk
  exact h k hk

/-- Violations of one rule, one for each entry of a list. -/
theorem shows_map {xs : List α} {place : Locator} {args : α → List String}
    (h : ∀ x ∈ xs, ∀ k ∈ r.nameArguments, ∃ n ∈ names, (args x)[k]? = some (nameText n)) :
    Shows names (xs.map fun x => r.violationAt place (args x)) := by
  rw [List.map_eq_flatMap, shows_flatMap]
  exact fun x hx => shows_singleton (h x hx)

theorem shows_violatedIf {c : Bool} {args : List String}
    (h : ∀ k ∈ r.nameArguments, ∃ n ∈ names, args[k]? = some (nameText n)) :
    Shows names (violatedIf c r args) := by
  unfold violatedIf
  split
  · exact shows_singleton h
  · exact shows_nil

theorem mem_of_mem_duplicates {ns : List (Option QName)} {q : QName} (h : q ∈ duplicates ns) :
    some q ∈ ns := by
  obtain ⟨i, hi, -⟩ := (enumerates_duplicates ns).mem_iff.1 h
  exact List.mem_of_getElem? hi

theorem shows_firstRepeat {ns : List (Option QName)}
    (h : ∀ q, some q ∈ ns → ∀ k ∈ r.nameArguments, ∃ n ∈ names, [q.text][k]? = some (nameText n)) :
    Shows names (firstRepeat r ns) := by
  refine shows_map fun q hq => h q ?_
  rw [firstDuplicate?_eq_head?, Option.mem_toList] at hq
  exact mem_of_mem_duplicates (List.mem_of_head? hq)

theorem shows_repeatedNames {owner : List String} {ns : List (Option QName)}
    (h : ∀ q, some q ∈ ns →
      ∀ k ∈ r.nameArguments, ∃ n ∈ names, (q.text :: owner)[k]? = some (nameText n)) :
    Shows names (repeatedNames r owner ns) :=
  shows_map fun q hq => h q (mem_of_mem_duplicates hq)

end

/-! ## The reports on components -/

section

variable (d : Description)

theorem shows_operationChecks {o : Operation} (ho : o.name ∈ d.names) :
    Shows d.names (operationChecks o) := by
  simp only [operationChecks, shows_append]
  refine ⟨⟨⟨?_, ?_⟩, ?_⟩, ?_⟩
  · exact shows_map fun _ _ => List.forall_mem_singleton.2 ⟨o.name, ho, rfl⟩
  · exact shows_map fun _ _ => List.forall_mem_singleton.2 ⟨o.name, ho, rfl⟩
  · exact shows_map fun _ _ => List.forall_mem_singleton.2 ⟨o.name, ho, rfl⟩
  · exact shows_map fun _ _ => List.forall_mem_singleton.2 ⟨o.name, ho, rfl⟩

theorem shows_interfaceChecks {i : Interface} (hi : i ∈ d.interfaces) :
    Shows d.names (interfaceChecks d i) := by
  have hname := Description.mem_names_of_interface hi i.name_mem_names
  simp only [interfaceChecks, shows_append, shows_flatMap]
  refine ⟨⟨⟨?_, ?_⟩, ?_⟩, fun o ho => shows_operationChecks d ?_⟩
  · exact shows_violatedIf (List.forall_mem_singleton.2 ⟨i.name, hname, rfl⟩)
  · refine shows_repeatedNames fun q hq => List.forall_mem_cons.2 ⟨⟨some q, ?_, rfl⟩, ?_⟩
    · exact Description.mem_names_of_interface hi (Interface.mem_names_of_fault hq)
    · exact List.forall_mem_singleton.2 ⟨i.name, hname, rfl⟩
  · refine shows_repeatedNames fun q hq => List.forall_mem_cons.2 ⟨⟨some q, ?_, rfl⟩, ?_⟩
    · exact Description.mem_names_of_interface hi (Interface.mem_names_of_operation hq)
    · exact List.forall_mem_singleton.2 ⟨i.name, hname, rfl⟩
  · exact Description.mem_names_of_interface hi
      (Interface.mem_names_of_operation (List.mem_map_of_mem ho))

theorem shows_bindingCompleteness {b : Binding} (hb : b ∈ d.bindings) :
    Shows d.names (bindingCompleteness d b) := by
  unfold bindingCompleteness
  split
  · exact shows_nil
  · next i hi =>
    refine shows_map fun x hx => List.forall_mem_cons.2 ⟨⟨b.name, ?_, rfl⟩, ?_⟩
    · exact Description.mem_names_of_binding hb
    · have ho : x.1 ∈ d.operationsOf i := List.fst_mem_of_mem_zipIdx (List.mem_filter.1 hx).1
      exact List.forall_mem_singleton.2 ⟨x.1.name,
        Description.mem_names_of_mem_operationsOf (mem_interfaces_of_interfaceIn hi) ho, rfl⟩

theorem shows_bindingChecks {b : Binding} (hb : b ∈ d.bindings) :
    Shows d.names (bindingChecks d b) := by
  have hname := Description.mem_names_of_binding hb
  simp only [bindingChecks, boundOperationChecks, shows_append, shows_flatMap]
  refine ⟨⟨⟨⟨⟨?_, ?_⟩, ?_⟩, ?_⟩, fun o _ => ⟨?_, ?_⟩⟩, ?_⟩
  · exact shows_violatedIf (List.forall_mem_singleton.2 ⟨b.name, hname, rfl⟩)
  · exact shows_bindingCompleteness d hb
  · exact shows_map fun _ _ => List.forall_mem_singleton.2 ⟨b.name, hname, rfl⟩
  · exact shows_repeatedNames fun _ _ => List.forall_mem_singleton.2 ⟨b.name, hname, rfl⟩
  · exact shows_map fun _ _ => List.forall_mem_nil _
  · exact shows_map fun _ _ => List.forall_mem_nil _
  · exact shows_repeatedNames fun _ _ => List.forall_mem_singleton.2 ⟨b.name, hname, rfl⟩

theorem shows_endpointChecks {s : Service} {e : Endpoint} (hs : s ∈ d.services)
    (he : e ∈ s.endpoints) : Shows d.names (endpointChecks d s e) := by
  have hend : inNoSpace e.name ∈ d.names :=
    Description.mem_names_of_service hs (List.mem_cons_of_mem _ (List.mem_map_of_mem he))
  have htext : e.text = nameText (inNoSpace e.name) := (nameText_inNoSpace e.name).symm
  rw [endpointChecks, shows_append]
  constructor
  · exact shows_map fun _ _ => List.forall_mem_singleton.2 ⟨_, hend, congrArg some htext⟩
  · unfold endpointInterface
    split
    · next bound implemented hbound himplemented =>
      obtain ⟨b, _, hb⟩ := Option.bind_eq_some_iff.1 hbound
      have hinterface {i : Interface} (hi : i ∈ d.interfaces) : i.name ∈ d.names :=
        Description.mem_names_of_interface hi i.name_mem_names
      refine shows_violatedIf (List.forall_mem_cons.2 ⟨⟨_, hend, congrArg some htext⟩,
        List.forall_mem_cons.2 ⟨⟨bound.name, ?_, rfl⟩,
          List.forall_mem_cons.2 ⟨⟨s.name, ?_, rfl⟩,
            List.forall_mem_singleton.2 ⟨implemented.name, ?_, rfl⟩⟩⟩⟩)
      · exact hinterface (mem_interfaces_of_interfaceIn hb)
      · exact Description.mem_names_of_service hs List.mem_cons_self
      · exact hinterface (mem_interfaces_of_interfaceIn himplemented)
    · exact shows_nil

theorem shows_unresolved {α : Type} (names : List (Option QName)) (k : ReferenceKind)
    (find? : QName → Option α) (qs : List QName) : Shows names (unresolved k find? qs) :=
  shows_map fun _ _ => List.forall_mem_nil _

/-- What leads nowhere is no name of a component. -/
theorem shows_references : Shows d.names (references d) := by
  simp only [references, interfaceReferences, serviceReferences, shows_append, shows_flatMap]
  refine ⟨⟨fun i _ => ⟨?_, fun o _ => ?_⟩, fun b _ => ?_⟩, fun s _ => ⟨?_, ?_⟩⟩
  · exact shows_unresolved _ _ _ _
  · exact shows_unresolved _ _ _ _
  · unfold bindingReferences
    split
    · simp only [boundReferences, shows_append, shows_flatMap]
      exact ⟨shows_unresolved _ _ _ _,
        fun o _ => ⟨shows_unresolved _ _ _ _, shows_unresolved _ _ _ _⟩⟩
    · exact shows_unresolved _ _ _ _
  · exact shows_unresolved _ _ _ _
  · exact shows_unresolved _ _ _ _

/-- Every name that a report on components shows is that of a component. -/
theorem shows_component : Shows d.names (component d) := by
  simp only [component, interfaceWalk, bindingWalk, serviceWalk, shows_append, shows_flatMap]
  refine ⟨⟨⟨⟨?_, fun i hi => ?_⟩, ?_, fun b hb => ?_⟩, ?_, fun s hs e he => ?_⟩, ?_⟩
  · refine shows_firstRepeat fun q hq => List.forall_mem_singleton.2 ⟨some q, ?_, rfl⟩
    obtain ⟨i, hi, hname⟩ := List.mem_map.1 hq
    exact hname ▸ Description.mem_names_of_interface hi i.name_mem_names
  · exact shows_interfaceChecks d hi
  · refine shows_repeatedNames fun q hq => List.forall_mem_singleton.2 ⟨some q, ?_, rfl⟩
    obtain ⟨b, hb, hname⟩ := List.mem_map.1 hq
    exact hname ▸ Description.mem_names_of_binding hb
  · exact shows_bindingChecks d hb
  · refine shows_firstRepeat fun q hq => List.forall_mem_singleton.2 ⟨some q, ?_, rfl⟩
    obtain ⟨s, hs, hname⟩ := List.mem_map.1 hq
    exact hname ▸ Description.mem_names_of_service hs List.mem_cons_self
  · exact shows_endpointChecks d hs he
  · exact shows_references d

end

end Check

/-! ## The reports on written descriptions -/

namespace Written

open Component (inNoSpace)

def Interface.shownNames (i : Interface) : List (Option QName) :=
  inNoSpace i.name :: i.operations.map fun o => inNoSpace o.name

/-- The names that reports on the written description show, by themselves. -/
def Description.shownNames (w : Description) : List (Option QName) :=
  w.interfaces.flatMap Interface.shownNames

end Written

namespace Check

section

open Written

variable (names : List (Option QName))

theorem shows_declarationsFrom (g : SchemaGroups) (ss : List InlineSchema) :
    Shows names (declarationsFrom g ss) := by
  fun_induction declarationsFrom g ss with
  | case1 => exact shows_nil
  | case2 g s ss hns ih => exact ih
  | case3 g s ss ns hns ih =>
    refine shows_append.2 ⟨shows_append.2 ⟨?_, ?_⟩, ih⟩
    · exact shows_map fun _ _ => List.forall_mem_nil _
    · exact shows_map fun _ _ => List.forall_mem_nil _

theorem shows_typesChecks (t : Types) : Shows names (typesChecks t) := by
  simp only [typesChecks, importedSchema, shows_append, shows_flatMap]
  refine ⟨fun s _ => ⟨?_, ?_⟩, shows_declarationsFrom names [] t.inline⟩
  · exact shows_map fun _ _ => List.forall_mem_nil _
  · exact shows_map fun _ _ => List.forall_mem_nil _

theorem shows_contentElement (t : Option Types) (c : Option Content) (place : Locator) :
    Shows names (contentElement t c place) := by
  simp only [contentElement, shows_flatMap]
  intro q _
  unfold elementAvailability
  split
  · exact shows_nil
  · exact shows_singleton (r := .elementIsAvailable) (List.forall_mem_nil _)

variable {names}

theorem shows_labelChecks {r : Rule} (hr : r.nameArguments = [1]) {o : Operation}
    (ho : Component.inNoSpace o.name ∈ names) (labels : List (Option String × Locator)) :
    Shows names (labelChecks r o labels) := by
  unfold labelChecks
  split
  · exact shows_nil
  · rw [shows_flatMap]
    intro x _
    refine shows_map fun l _ => ?_
    rw [hr, List.forall_mem_singleton]
    exact ⟨_, ho, congrArg some (Component.nameText_inNoSpace o.name).symm⟩

theorem shows_writtenInterfaceChecks (t : Option Types) {i : Interface}
    (hi : i.shownNames ⊆ names) : Shows names (writtenInterfaceChecks t i) := by
  have hname : Component.inNoSpace i.name ∈ names := hi List.mem_cons_self
  have hoperation {o : Operation} (ho : o ∈ i.operations) :
      Component.inNoSpace o.name ∈ names :=
    hi (List.mem_cons_of_mem _ (List.mem_map_of_mem ho))
  simp only [writtenInterfaceChecks, writtenOperationChecks, shows_append, shows_flatMap]
  refine ⟨⟨?_, fun f _ => ?_⟩, fun o ho => ⟨⟨fun m _ => ?_, ?_⟩, ?_⟩⟩
  · exact shows_map fun _ _ => List.forall_mem_singleton.2
      ⟨_, hname, congrArg some (Component.nameText_inNoSpace i.name).symm⟩
  · exact shows_contentElement names _ _ _
  · exact shows_contentElement names _ _ _
  · exact shows_labelChecks rfl (hoperation ho) _
  · exact shows_labelChecks rfl (hoperation ho) _

/-- Every name that a report on a written description shows is one that is written. -/
theorem shows_document (w : Description) : Shows w.shownNames (document w) := by
  simp only [document, shows_append, shows_flatMap]
  refine ⟨⟨⟨?_, fun i _ => ?_⟩, fun t _ => shows_typesChecks _ t⟩, fun i hi => ?_⟩
  · exact shows_map fun _ _ => List.forall_mem_nil _
  · exact shows_map fun _ _ => List.forall_mem_nil _
  · exact shows_writtenInterfaceChecks _ fun n hn => List.mem_flatMap.2 ⟨i, hi, hn⟩

end

end Check

/-! ## Names that are read -/

namespace Component

theorem hasNCName_inNoSpace {l : Option String} (h : Written.IsNamed l) :
    HasNCName (inNoSpace l) := by
  obtain ⟨l, rfl, hl⟩ := h
  rintro q ⟨rfl⟩
  exact (isNCName_iff.1 hl).1

theorem hasNCName_of_isNameOf {w : Written.Description} {l : Option String} {n : Option QName}
    (h : IsNameOf w l n) : HasNCName n := by
  obtain ⟨ns, l, -, -, hl, rfl⟩ := h
  rintro q ⟨rfl⟩
  exact (isNCName_iff.1 hl).1

variable {w : Written.Description}

theorem hasNCName_of_mem_shownNames (h : w.IsComplete) : ∀ n ∈ w.shownNames, HasNCName n := by
  rintro n hn
  obtain ⟨i, hi, hn⟩ := List.mem_flatMap.1 hn
  have hinterface := h.interfaces i hi
  rcases List.mem_cons.1 hn with rfl | hn
  · exact hasNCName_inNoSpace hinterface.name
  · obtain ⟨o, ho, rfl⟩ := List.mem_map.1 hn
    exact hasNCName_inNoSpace (hinterface.operations o ho).name

theorem hasNCName_of_mem_names {d : Description} (h : d.IsCompleteFor w) :
    ∀ n ∈ d.names, HasNCName n := by
  have hinterface {wi : Written.Interface} {i : Interface} (hi : i.IsCompleteFor w wi) :
      ∀ n ∈ i.names, HasNCName n := by
    refine List.forall_mem_cons.2 ⟨hasNCName_of_isNameOf hi.name, ?_⟩
    refine List.forall_mem_append.2 ⟨List.forall_mem_map.2 ?_, List.forall_mem_map.2 ?_⟩
    · exact Check.forall_of_forall₂ hi.faults fun _ _ hf => hasNCName_of_isNameOf hf
    · exact Check.forall_of_forall₂ hi.operations fun _ _ ho => hasNCName_of_isNameOf ho.name
  have hservice {ws : Written.Service} {s : Service} (hs : s.IsCompleteFor w ws) :
      ∀ n ∈ s.names, HasNCName n := by
    refine List.forall_mem_cons.2 ⟨hasNCName_of_isNameOf hs.name, List.forall_mem_map.2 ?_⟩
    exact Check.forall_of_forall₂ hs.endpoints fun _ _ he => hasNCName_inNoSpace he.name.2
  refine List.forall_mem_append.2 ⟨List.forall_mem_append.2 ⟨?_, ?_⟩, ?_⟩
  · exact List.forall_mem_flatMap.2
      (Check.forall_of_forall₂ h.interfaces fun _ _ hi => hinterface hi)
  · exact List.forall_mem_map.2
      (Check.forall_of_forall₂ h.bindings fun _ _ hb => hasNCName_of_isNameOf hb.name)
  · exact List.forall_mem_flatMap.2
      (Check.forall_of_forall₂ h.services fun _ _ hs => hservice hs)

end Component

/-! ## The law -/

/-- The names that reports on a description can show. -/
def namesIn (w : Written.Description) : List (Option QName) :=
  w.shownNames ++ (Component.derive w).names

/-- A validation shows names of the description, and nothing else where a name should
be. -/
theorem Check.shows_validate (resolver : Resolver) (w : Written.Description) :
    ∃ log, validate [] resolver w (Component.derive w) = .ok log ∧ Shows (namesIn w) log := by
  have hnamespace : Shows (namesIn w) (namespaceReports resolver w) := by
    rw [namespaceReports_eq, shows_append]
    constructor
    · exact shows_map fun _ _ => List.forall_mem_nil _
    · exact shows_map fun _ _ => List.forall_mem_nil _
  have hdocument : Shows (namesIn w) (document w) :=
    (shows_document w).mono (List.subset_append_left _ _)
  have hcomponent : Shows (namesIn w) (component (Component.derive w)) :=
    (shows_component _).mono (List.subset_append_right _ _)
  refine ⟨_, validate_builtInOnly w _ resolver, fun v hv => ?_⟩
  simp only [Log.mem_append_iff, List.mem_append] at hv
  rcases hv with (hv | hv) | hv | hv
  · exact hdocument v hv
  · exact hcomponent v hv
  · exact hnamespace v hv
  · exact hcomponent v (mem_component_of_mem_interfaceReports hv)

/-- Names whose local names are NCNames are the same if they are shown alike, whatever
text the namespace is, and also where the local name is one that is refused on reading.
All names in a description that was read are NCNames. So reports that have the same
arguments show the same names, and where a report shows a component, only one name in
the description can be meant. -/
theorem what_is_shown_is_the_text_of_one_name :
    (∀ p q : QName, NCName p.localName.toList → NCName q.localName.toList →
      p.text = q.text → p = q) ∧
    (∀ p q : QName, isNCName p.localName = true → isNCName q.localName = true →
      p.text = q.text → p = q) ∧
    ∀ (s : Sources) (base : Option Iri) (root : Xml.Element) (w : Written.Description),
      s.ofRoot base root = .ok w →
        (∀ m ∈ namesIn w, ∀ n ∈ namesIn w,
          Component.nameText m = Component.nameText n → m = n) ∧
        (∀ u v : Violation, u.args = v.args → ∀ k m n,
          u.ShowsAt (namesIn w) k m → v.ShowsAt (namesIn w) k n → m = n) ∧
        ∀ resolver : Resolver, ∃ log,
          Check.validate [] resolver w (Component.derive w) = .ok log ∧
            ∀ v ∈ log, ∀ k ∈ v.nameArguments, ∃! n, v.ShowsAt (namesIn w) k n := by
  refine ⟨fun p q hp hq h => QName.eq_of_text_eq hp hq h, fun p q hp hq h => ?_,
    fun s base root w hw => ?_⟩
  · exact QName.eq_of_text_eq (isNCName_iff.1 hp).1 (isNCName_iff.1 hq).1 h
  have hcomplete : w.IsComplete := Written.gives_ofRoot s base root w hw
  have hnames : ∀ n ∈ namesIn w, Component.HasNCName n :=
    List.forall_mem_append.2 ⟨Component.hasNCName_of_mem_shownNames hcomplete,
      Component.hasNCName_of_mem_names (Component.isCompleteFor_derive hcomplete)⟩
  refine ⟨fun m hm n hn h => ?_, fun u v hargs k m n hm hn => ?_, fun resolver => ?_⟩
  · exact Component.eq_of_nameText_eq (hnames m hm) (hnames n hn) h
  · exact hm.eq hnames hargs hn
  · obtain ⟨log, hlog, hshows⟩ := Check.shows_validate resolver w
    exact ⟨log, hlog, hshows.existsUnique hnames⟩

def exampleBraces : String := "urn:\x7da\x7b"

/-- Two interfaces of one name, in a namespace with braces of its own. -/
def exampleCounters : Xml.Element :=
  exampleNode "description" [("targetNamespace", exampleBraces)]
    [exampleNode "interface" [("name", "Counter")] [],
     exampleNode "interface" [("name", "Counter")] []]

/-- What the two are read as. -/
def exampleCountersRead : Written.Description :=
  ⟨none, some exampleBraces, [], [], none,
    [⟨some "Counter", [], [], [], [], exampleAt "interface name=\"Counter\""⟩,
     ⟨some "Counter", [], [], [], [], exampleAt "interface name=\"Counter\""⟩],
    [], [], exampleAt "description"⟩

theorem the_counter_in_braces_is_the_only_one_meant :
    (∀ q : QName, NCName q.localName.toList → q.text = "\x7burn:\x7da\x7b\x7dあ" →
      q = ⟨some exampleBraces, "あ"⟩) ∧
    (∀ q : QName, isNCName q.localName = true → q.text = "\x7burn:\x7da\x7b\x7dCounter" →
      q = ⟨some exampleBraces, "Counter"⟩) ∧
    exampleSources.ofRoot none exampleCounters = .ok exampleCountersRead ∧
    ∃ log, Check.validate [] Resolver.standard exampleCountersRead
          (Component.derive exampleCountersRead) = .ok log ∧
      ∃ v ∈ log, v.args = ["\x7burn:\x7da\x7b\x7dCounter"] ∧
        ∃! n, v.ShowsAt (namesIn exampleCountersRead) 0 n := by
  obtain ⟨hwide, htext, hread⟩ := what_is_shown_is_the_text_of_one_name
  have hletter : NCName "あ".toList := .start (by decide : IsInRanges startRanges 'あ')
  refine ⟨fun q hq h => hwide q _ hq hletter h, fun q hq h => htext q _ hq (by decide) h, rfl, ?_⟩
  obtain ⟨-, -, hreports⟩ := hread exampleSources none exampleCounters exampleCountersRead rfl
  obtain ⟨log, hlog, hshown⟩ := hreports Resolver.standard
  let v := Rule.interfaceNameIsUnique.violation ["\x7burn:\x7da\x7b\x7dCounter"]
  have hv : v ∈ Check.component (Component.derive exampleCountersRead) := by decide
  have hmem : v ∈ log := by
    rw [Check.validate_builtInOnly, Except.ok.injEq] at hlog
    simp only [← hlog, Log.mem_append_iff, List.mem_append]
    exact .inl (.inr hv)
  exact ⟨log, hlog, v, hmem, rfl, hshown v hmem 0 (by decide)⟩

end Wsdl
