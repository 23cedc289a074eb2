-- What the whole validation reports when nothing is registered besides the
-- built-in assertions: the violations of both checks, and what the table
-- says about the target namespace. What it says about interfaces repeats what
-- the check of components has said.
import Mathlib.Data.List.Basic
import Wsdl.Check.Table
import Wsdl.Proofs.Violations
import Wsdl.Proofs.Walk

namespace Wsdl.Check

/-! ## The built-in assertions -/

/-- What the built-in assertions report at a node. -/
def nodeReports (resolver : Resolver) (d : Component.Description) : Node → List Violation
  | .descriptionElement w =>
    namespaceCheck .namespaceIsAbsolute Iri.isAbsoluteText w
      ++ namespaceCheck .namespaceIsRetrievable (fun ns => (resolver ns).isSome) w
  | .description d => interfaceNames d.interfaces
  | .interface i => interfaceCycle d i
  | _ => []

theorem flatMap_reportedBy_builtIn (resolver : Resolver) (d : Component.Description) (n : Node) :
    ((builtIn n.kind).map fun a => (a, (⟨d, n⟩ : Target))).flatMap (Table.reportedBy resolver)
      = nodeReports resolver d n := by
  cases n with
  | descriptionElement w =>
    simp [Node.kind, builtIn, Table.reportedBy, nodeReports, namespaceAssertion,
      retrievalAssertion, Assertion.ofRule, Target.asDescriptionElement]
  | description d =>
    simp [Node.kind, builtIn, Table.reportedBy, nodeReports, interfaceNameAssertion,
      Assertion.ofRule, Target.asDescription]
  | interface i =>
    simp [Node.kind, builtIn, Table.reportedBy, nodeReports, interfaceCycleAssertion,
      Assertion.ofRule, Target.asInterface]
  | _ => rfl

/-! ## The table without extensions -/

/-- What the table says about the target namespace: an error if it is not
absolute, and a warning if it leads to nothing. -/
def namespaceReports (resolver : Resolver) (w : Written.Description) : List Violation :=
  match w.targetNamespace with
  | none => []
  | some ns =>
    (if Iri.isAbsoluteText ns then [] else [⟨w.place, "Description-1001", [ns], .error⟩])
      ++ if (resolver ns).isSome then [] else [⟨w.place, "Description-1002", [ns], .warning⟩]

/-- What the table says about interfaces. -/
def interfaceReports (d : Component.Description) : List Violation :=
  interfaceNames d.interfaces ++ d.interfaces.flatMap (interfaceCycle d)

theorem namespaceCheck_eq (r : Rule) (holds : String → Bool) (w : Written.Description) :
    namespaceCheck r holds w =
      match w.targetNamespace with
      | none => []
      | some ns => if holds ns then [] else [r.violationAt w.place [ns]] := by
  unfold namespaceCheck
  cases w.targetNamespace with
  | none => rfl
  | some ns => cases h : holds ns <;> simp [h]

theorem namespaceReports_eq (resolver : Resolver) (w : Written.Description) :
    namespaceReports resolver w
      = namespaceCheck .namespaceIsAbsolute Iri.isAbsoluteText w
        ++ namespaceCheck .namespaceIsRetrievable (fun ns => (resolver ns).isSome) w := by
  rw [namespaceCheck_eq, namespaceCheck_eq, namespaceReports]
  cases w.targetNamespace <;> rfl

section

variable (resolver : Resolver) (w : Written.Description) (d : Component.Description)

theorem flatMap_nodeReports_eq_nil {α : Type} {parts : α → List Node}
    (h : ∀ x, ∀ n ∈ parts x, nodeReports resolver d n = []) (xs : List α) :
    (xs.flatMap parts).flatMap (nodeReports resolver d) = [] := by
  rw [List.flatMap_eq_nil_iff]
  intro n hn
  obtain ⟨x, _, hx⟩ := List.mem_flatMap.1 hn
  exact h x n hx

theorem nodeReports_of_mem_bindingNodes (b : Component.Binding) :
    ∀ n ∈ bindingNodes b, nodeReports resolver d n = [] := by
  intro n hn
  simp only [bindingNodes, operationNodes, List.mem_cons, List.mem_append, List.mem_map,
    List.mem_flatMap] at hn
  rcases hn with rfl | ⟨_, _, rfl⟩ | ⟨_, _, rfl | ⟨_, _, rfl⟩ | ⟨_, _, rfl⟩⟩ <;> rfl

theorem nodeReports_of_mem_serviceNodes (s : Component.Service) :
    ∀ n ∈ serviceNodes s, nodeReports resolver d n = [] := by
  intro n hn
  simp only [serviceNodes, List.mem_cons, List.mem_map] at hn
  rcases hn with rfl | ⟨_, _, rfl⟩ <;> rfl

/-- Bindings and services have no built-in assertions. -/
theorem flatMap_nodeReports :
    (nodes w d).flatMap (nodeReports resolver d)
      = namespaceReports resolver w ++ interfaceReports d := by
  have hbindings : (d.bindings.flatMap bindingNodes).flatMap (nodeReports resolver d) = [] :=
    flatMap_nodeReports_eq_nil resolver d (nodeReports_of_mem_bindingNodes resolver d) _
  have hservices : (d.services.flatMap serviceNodes).flatMap (nodeReports resolver d) = [] :=
    flatMap_nodeReports_eq_nil resolver d (nodeReports_of_mem_serviceNodes resolver d) _
  have hinterfaces : (d.interfaces.map Node.interface).flatMap (nodeReports resolver d)
      = d.interfaces.flatMap (interfaceCycle d) := by
    rw [List.flatMap_map]
    rfl
  unfold nodes
  rw [List.flatMap_append, List.flatMap_append, List.flatMap_append, hbindings, hservices,
    hinterfaces, namespaceReports_eq]
  simp [nodeReports, interfaceReports]

end

/-- The built-in assertions do not give up, and add their reports to any
log. -/
theorem Table.run_builtInOnly (resolver : Resolver) (w : Written.Description)
    (d : Component.Description) (log : Log) :
    (Table.builtInOnly.run resolver w d (.on log)).1.log
        = log ++ (namespaceReports resolver w ++ interfaceReports d) ∧
      ∃ count, (Table.builtInOnly.run resolver w d (.on log)).2 = .ok count := by
  have hreports : (Table.builtInOnly.schedule w d).flatMap (Table.reportedBy resolver)
      = namespaceReports resolver w ++ interfaceReports d := by
    rw [← flatMap_nodeReports, Table.schedule, List.flatMap_assoc]
    refine List.flatMap_congr fun n _ => ?_
    rw [← flatMap_reportedBy_builtIn]
    simp [Table.assertionsFor, Table.builtInOnly, Registry.assertionsFor]
  refine ⟨?_, Table.run_builtInOnly_ok resolver w d (.on log)⟩
  rw [Table.log_run, Table.invocations_eq_follow, ← hreports]
  exact congrArg (log ++ ·) (Table.follow_of_steady
    (fun _ h => Table.steady_of_mem_schedule_builtInOnly resolver h) .empty).1

/-! ## What is dropped -/

theorem dropRepeats_append (earlier later : Log) :
    Log.dropRepeats (earlier ++ later) earlier.length
      = earlier ++ later.filter (! earlier.contains ·) := by
  simp [Log.dropRepeats, Log.append]

/-- The check of components finds whatever the table says about
interfaces. -/
theorem mem_component_of_mem_interfaceReports {d : Component.Description} {v : Violation}
    (hv : v ∈ interfaceReports d) : v ∈ component d := by
  have hwalk : v ∈ interfaceWalk d := by
    rcases List.mem_append.1 hv with hv | hv
    · exact List.mem_append_left _ hv
    · obtain ⟨i, hi, hvi⟩ := List.mem_flatMap.1 hv
      refine List.mem_append_right _ (List.mem_flatMap.2 ⟨i, hi, ?_⟩)
      simp only [interfaceChecks, List.append_assoc]
      exact List.mem_append_left _ hvi
  simp only [component, List.append_assoc]
  exact List.mem_append_left _ hwalk

theorem id_of_mem_interfaceReports {d : Component.Description} {v : Violation}
    (hv : v ∈ interfaceReports d) : v.id = "Interface-1009" ∨ v.id = "Interface-1010" := by
  rcases List.mem_append.1 hv with hv | hv
  · obtain ⟨q, _, rfl⟩ := List.mem_map.1 hv
    exact Or.inr rfl
  · obtain ⟨i, _, hvi⟩ := List.mem_flatMap.1 hv
    simp only [interfaceCycle, violatedIf] at hvi
    split at hvi
    · obtain rfl := List.mem_singleton.1 hvi
      exact Or.inl rfl
    · cases hvi

theorem id_of_mem_namespaceReports {resolver : Resolver} {w : Written.Description}
    {v : Violation} (hv : v ∈ namespaceReports resolver w) :
    v.id = Rule.namespaceIsAbsolute.id ∨ v.id = Rule.namespaceIsRetrievable.id := by
  rw [namespaceReports_eq] at hv
  rcases List.mem_append.1 hv with hv | hv
  · obtain ⟨_, _, rfl⟩ := List.mem_map.1 hv
    exact Or.inl rfl
  · obtain ⟨_, _, rfl⟩ := List.mem_map.1 hv
    exact Or.inr rfl

/-- Neither check has a rule with the id of a built-in assertion on the
target namespace. -/
theorem not_mem_of_mem_namespaceReports {resolver : Resolver} {w : Written.Description}
    {d : Component.Description} {v : Violation} (hv : v ∈ namespaceReports resolver w) :
    v ∉ document w ++ component d := by
  have hids : ∀ r ∈ documentRules ++ componentRules,
      r.id ≠ Rule.namespaceIsAbsolute.id ∧ r.id ≠ Rule.namespaceIsRetrievable.id := by decide
  intro hmem
  obtain ⟨r, hr, hof⟩ : ∃ r ∈ documentRules ++ componentRules, IsOf r v := by
    rcases List.mem_append.1 hmem with h | h
    · obtain ⟨r, hr, hof⟩ := among_document w v h
      exact ⟨r, List.mem_append_left _ hr, hof⟩
    · obtain ⟨r, hr, hof⟩ := among_component d v h
      exact ⟨r, List.mem_append_right _ hr, hof⟩
  rcases id_of_mem_namespaceReports hv with h | h
  · exact (hids r hr).1 (hof.id_eq.symm.trans h)
  · exact (hids r hr).2 (hof.id_eq.symm.trans h)

/-! ## The law -/

/-- Without extensions a validation always ends well. It gives the violations
of the written description, those of the components, and then what the table
says about the target namespace. All that the table says about interfaces, and
nothing else, is dropped: the check of components has said it before. -/
theorem a_validation_adds_only_the_namespace_reports (resolver : Resolver)
    (w : Written.Description) (d : Component.Description) :
    validate [] resolver w d
        = .ok (document w ++ component d ++ namespaceReports resolver w) ∧
      (∃ t, Table.ofRegistry [] = .ok t ∧
        (t.run resolver w d (.on (document w ++ component d))).1.log
          = document w ++ component d ++ (namespaceReports resolver w ++ interfaceReports d)) ∧
      (∀ v ∈ interfaceReports d,
        (v.id = "Interface-1009" ∨ v.id = "Interface-1010") ∧ v ∈ component d) ∧
      ∀ v ∈ namespaceReports resolver w, v ∉ document w ++ component d := by
  obtain ⟨hlog, count, hcount⟩ :=
    Table.run_builtInOnly resolver w d (document w ++ component d)
  refine ⟨?_, ⟨Table.builtInOnly, Table.ofRegistry_nil, hlog⟩, ?_, ?_⟩
  · have hnamespace : (namespaceReports resolver w).filter
          (! (document w ++ component d).contains ·) = namespaceReports resolver w := by
      rw [List.filter_eq_self]
      intro v hv
      simpa using not_mem_of_mem_namespaceReports (d := d) hv
    have hinterface : (interfaceReports d).filter
          (! (document w ++ component d).contains ·) = [] := by
      rw [List.filter_eq_nil_iff]
      intro v hv
      simp [mem_component_of_mem_interfaceReports hv]
    unfold validate
    rw [Table.ofRegistry_nil]
    simp only [Except.mapError, bind, Except.bind, pure, Except.pure, hcount, hlog]
    rw [dropRepeats_append, List.filter_append, hnamespace, hinterface, List.append_nil]
  · exact fun v hv => ⟨id_of_mem_interfaceReports hv, mem_component_of_mem_interfaceReports hv⟩
  · exact fun v hv => not_mem_of_mem_namespaceReports hv

/-- Two interfaces of one name. -/
def exampleRepeat : Component.Description :=
  ⟨none, [⟨some ⟨none, "A"⟩, [], [], [], []⟩, ⟨some ⟨none, "A"⟩, [], [], [], []⟩], [], [], [], []⟩

/-- A description with a relative target namespace. -/
def exampleRelative : Written.Description :=
  ⟨none, some "greeter", [], [], none, [], [], [], .nowhere⟩

theorem the_repeated_name_is_dropped_and_the_relative_namespace_kept :
    (Rule.interfaceNameIsUnique.violation ["A"] ∈ interfaceReports exampleRepeat ∧
      Rule.interfaceNameIsUnique.violation ["A"] ∈ component exampleRepeat) ∧
    Rule.namespaceIsAbsolute.violation ["greeter"]
        ∈ namespaceReports Resolver.standard exampleRelative ∧
      Rule.namespaceIsAbsolute.violation ["greeter"]
        ∉ document exampleRelative ++ component exampleRepeat := by
  obtain ⟨_, _, hdropped, hkept⟩ :=
    a_validation_adds_only_the_namespace_reports Resolver.standard exampleRelative exampleRepeat
  have hname : Rule.interfaceNameIsUnique.violation ["A"] ∈ interfaceReports exampleRepeat :=
    List.mem_append_left _ (by decide)
  have hrelative : Iri.isAbsoluteText "greeter" = false := by cbv
  have hspace : Rule.namespaceIsAbsolute.violation ["greeter"]
      ∈ namespaceReports Resolver.standard exampleRelative := by
    simp [namespaceReports, exampleRelative, hrelative, Rule.violation, Rule.violationAt,
      Rule.id, Rule.severity]
  exact ⟨⟨hname, (hdropped _ hname).2⟩, hspace, hkept _ hspace⟩

end Wsdl.Check
