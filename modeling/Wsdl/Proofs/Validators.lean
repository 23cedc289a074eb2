-- What the two validators do to the reporter that they are given. Each of them
-- makes its single inspections one after the other, and each of these tells what
-- the assertion finds that it is for. So a validator adds to a log what they
-- would report by themselves, and is satisfied where each of them is.
import Wsdl.Check.Inspection.Document
import Wsdl.Check.Table
import Wsdl.Proofs.Inspections
import Wsdl.Proofs.Violations

namespace Wsdl.Check

namespace Inspection

/-! ## The assertions on components -/

section

open Component

variable (d : Description)

theorem tells_interfaceNames (is : List Interface) :
    (interfaceNames is).Tells (Check.interfaceNames is) := tells_noRepeat _ _

theorem tells_interfaceCycle (i : Interface) :
    (interfaceCycle d i).Tells (Check.interfaceCycle d i) := tells_violatedIf rfl _ _

theorem tells_faultNames (i : Interface) : (faultNames i).Tells (Check.faultNames i) :=
  tells_expectNothing _

theorem tells_operationNames (i : Interface) :
    (operationNames i).Tells (Check.operationNames i) := tells_expectNothing _

theorem tells_operationStyles (o : Operation) :
    (operationStyles o).Tells (Check.operationStyles o) :=
  tells_each_expect (fun _ => (Bool.not_not _).symm) _ _

theorem tells_operationPattern (o : Operation) :
    (operationPattern o).Tells (Check.operationPattern o) :=
  tells_expectText (fun _ => (Bool.not_not _).symm) _ _

theorem tells_messageLabels (o : Operation) :
    (messageLabels o).Tells (Check.messageLabels o) := tells_expectNothing _

theorem tells_faultReferences (o : Operation) :
    (faultReferences o).Tells (Check.faultReferences o) := tells_expectNothing _

theorem tells_bindingNames (bs : List Binding) :
    (bindingNames bs).Tells (Check.bindingNames bs) := tells_expectNothing _

theorem tells_boundFaults (b : Binding) : (boundFaults b).Tells (Check.boundFaults b) :=
  tells_violatedIf (by simp) _ _

theorem tells_bindingCompleteness (b : Binding) :
    (bindingCompleteness d b).Tells (Check.bindingCompleteness d b) := by
  unfold bindingCompleteness Check.bindingCompleteness
  cases b.interfaceIn d with
  | none => exact tells_all_nil
  | some i => exact tells_each_expect (fun _ => (Bool.not_not _).symm) _ _

theorem tells_bindingType (b : Binding) : (bindingType b).Tells (Check.bindingType b) :=
  tells_expectText (fun _ => (Bool.not_not _).symm) _ _

theorem tells_boundOperationNames (b : Binding) :
    (boundOperationNames b).Tells (Check.boundOperationNames b) := tells_expectNothing _

theorem tells_boundMessageLabels (o : BindingOperation) :
    (boundMessageLabels o).Tells (Check.boundMessageLabels o) := tells_expectNothing _

theorem tells_boundFaultReferences (o : BindingOperation) :
    (boundFaultReferences o).Tells (Check.boundFaultReferences o) := tells_expectNothing _

theorem tells_boundFaultNames (b : Binding) :
    (boundFaultNames b).Tells (Check.boundFaultNames b) := tells_expectNothing _

theorem tells_serviceNames (ss : List Service) :
    (serviceNames ss).Tells (Check.serviceNames ss) := tells_noRepeat _ _

theorem tells_endpointAddress (e : Endpoint) :
    (endpointAddress e).Tells (Check.endpointAddress e) :=
  tells_expectText (fun _ => (Bool.not_not _).symm) _ _

theorem tells_endpointInterface (s : Service) (e : Endpoint) :
    (endpointInterface d s e).Tells (Check.endpointInterface d s e) := by
  unfold endpointInterface Check.endpointInterface
  cases (e.bindingIn d).bind (·.interfaceIn d) with
  | none => exact tells_all_nil
  | some bound =>
    cases s.interfaceIn d with
    | none => exact tells_all_nil
    | some implemented => exact tells_violatedIf (Bool.not_not _).symm _ _

theorem tells_references : (references d).Tells (Check.references d) := tells_expectNothing _

end

/-! ## The assertions on written descriptions -/

section

open Written

theorem tells_targetNamespace (w : Description) :
    (targetNamespace w).Tells (Check.targetNamespace w) :=
  tells_expectText (fun _ => (Bool.not_not _).symm) _ _

theorem tells_foreignImport (w : Description) (i : Import) :
    (foreignImport w i).Tells (Check.foreignImport w i) :=
  tells_expectText (fun _ => rfl) _ _

theorem tells_importedNamespace (s : ImportedSchema) :
    (importedNamespace s).Tells (Check.importedNamespace s) := by
  unfold importedNamespace Check.importedNamespace
  cases s.document with
  | none => exact tells_all_nil
  | some document =>
    cases hns : document.targetNamespace with
    | none => simpa [hns] using tells_expect false _
    | some ns => simpa [hns] using tells_expect true _

theorem tells_importedMatch (s : ImportedSchema) :
    (importedMatch s).Tells (Check.importedMatch s) :=
  tells_expectText (fun _ => (Bool.not_not _).symm) _ _

theorem tells_declarationsFrom (g : SchemaGroups) (ss : List InlineSchema) :
    (declarationsFrom g ss).Tells (Check.declarationsFrom g ss) := by
  induction ss generalizing g with
  | nil => exact tells_all_nil
  | cons s ss ih =>
    unfold declarationsFrom Check.declarationsFrom
    cases s.document.targetNamespace with
    | none => exact ih g
    | some ns =>
      have hnew (r : Rule) (has : QName → Bool) (names : List QName) :
          (newIn r ns s.place has names).Tells (repeatedIn r ns s.place has names) :=
        tells_each_expect (fun _ => rfl) _ _
      have hlast := tells_all_cons (ih (g.add ns s.document)) tells_all_nil
      rw [List.append_nil] at hlast
      have h := tells_all_cons (hnew .elementIsDeclaredOnce
        (fun q => (g.earlier ns).any (·.declares q)) s.document.elements)
        (tells_all_cons (hnew .typeIsDefinedOnce (fun q => (g.earlier ns).any (·.defines q))
          s.document.types) hlast)
      rwa [← List.append_assoc] at h

theorem tells_schemaDeclarations (t : Types) :
    (schemaDeclarations t).Tells (Check.schemaDeclarations t) := tells_declarationsFrom _ _

theorem tells_defaultStyles (i : Interface) :
    (defaultStyles i).Tells (Check.defaultStyles i) :=
  tells_each_expect (fun _ => (Bool.not_not _).symm) _ _

theorem tells_elementAvailability (t : Option Types) (q : QName) (place : Locator) :
    (elementAvailability t q place).Tells (Check.elementAvailability t q place) :=
  tells_expect _ _

theorem tells_labels (r : Rule) (o : Operation) (ls : List (Option String × Locator)) :
    (labels r o ls).Tells (labelChecks r o ls) := by
  unfold labels labelChecks
  cases Pattern.find? o.patternIri with
  | none => exact tells_all_nil
  | some p => exact tells_each fun x => tells_expectText (fun _ => (Bool.not_not _).symm) _ _

theorem tells_writtenMessageLabels (o : Operation) :
    (writtenMessageLabels o).Tells (Check.writtenMessageLabels o) := tells_labels _ _ _

theorem tells_writtenFaultLabels (o : Operation) :
    (writtenFaultLabels o).Tells (Check.writtenFaultLabels o) := tells_labels _ _ _

end

/-! ## The single inspections of a validator -/

section

open Component

def operationParts (o : Operation) : List Inspection :=
  [operationStyles o, operationPattern o, messageLabels o, faultReferences o]

def interfaceParts (d : Description) (i : Interface) : List Inspection :=
  [interfaceCycle d i, faultNames i, operationNames i] ++ i.operations.flatMap operationParts

def boundOperationParts (o : BindingOperation) : List Inspection :=
  [boundMessageLabels o, boundFaultReferences o]

def bindingParts (d : Description) (b : Binding) : List Inspection :=
  [boundFaults b, bindingCompleteness d b, bindingType b, boundOperationNames b]
    ++ b.operations.flatMap boundOperationParts ++ [boundFaultNames b]

def endpointParts (d : Description) (s : Service) (e : Endpoint) : List Inspection :=
  [endpointAddress e, endpointInterface d s e]

/-- Every single inspection of the components, in the order in which they have
their turn. -/
def componentParts (d : Description) : List Inspection :=
  [interfaceNames d.interfaces] ++ d.interfaces.flatMap (interfaceParts d)
    ++ [bindingNames d.bindings] ++ d.bindings.flatMap (bindingParts d)
    ++ [serviceNames d.services]
    ++ (d.services.flatMap fun s => s.endpoints.flatMap (endpointParts d s))
    ++ [references d]

theorem interface_eq (d : Description) (i : Interface) :
    interface d i = all (interfaceParts d i) := by
  have hops : each i.operations operation = all (i.operations.flatMap operationParts) :=
    each_eq_all (fun _ => rfl) _
  rw [interface, hops]
  exact all_append_all [_, _, _] _

theorem binding_eq (d : Description) (b : Binding) : binding d b = all (bindingParts d b) := by
  have hops : each b.operations boundOperation = all (b.operations.flatMap boundOperationParts) :=
    each_eq_all (fun _ => rfl) _
  rw [binding, hops]
  exact all_append_all_cons [_, _, _, _] _ _

theorem component_eq (d : Description) : component d = all (componentParts d) := by
  have hinterfaces : interfaces d
      = all ([interfaceNames d.interfaces] ++ d.interfaces.flatMap (interfaceParts d)) := by
    rw [interfaces, each_eq_all (interface_eq d)]
    exact all_append_all [_] _
  have hbindings : bindings d
      = all ([bindingNames d.bindings] ++ d.bindings.flatMap (bindingParts d)) := by
    rw [bindings, each_eq_all (binding_eq d)]
    exact all_append_all [_] _
  have hservices : services d = all ([serviceNames d.services]
      ++ d.services.flatMap fun s => s.endpoints.flatMap (endpointParts d s)) := by
    have hends (s : Service) : each s.endpoints (endpoint d s)
        = all (s.endpoints.flatMap (endpointParts d s)) := each_eq_all (fun _ => rfl) _
    rw [services, each_eq_all hends]
    exact all_append_all [_] _
  rw [component, hinterfaces, hbindings, hservices, ← List.nil_append [_, _, _, _],
    all_append_all_cons, all_append_all_cons, all_append_all_cons]
  simp only [componentParts, List.nil_append, List.append_assoc]

end

section

open Written

def importedSchemaParts (s : ImportedSchema) : List Inspection :=
  [importedNamespace s, importedMatch s]

def typesParts (t : Types) : List Inspection :=
  t.imported.flatMap importedSchemaParts ++ [schemaDeclarations t]

/-- The element is looked for if the content refers to one. -/
def contentParts (t : Option Types) (c : Option Content) (place : Locator) : List Inspection :=
  (c.bind (·.name?)).toList.map fun q => elementAvailability t q place

def writtenOperationParts (t : Option Types) (o : Operation) : List Inspection :=
  (o.messages.flatMap fun m => contentParts t m.content m.place)
    ++ [writtenMessageLabels o, writtenFaultLabels o]

def writtenInterfaceParts (t : Option Types) (i : Interface) : List Inspection :=
  [defaultStyles i] ++ (i.faults.flatMap fun f => contentParts t f.content f.place)
    ++ i.operations.flatMap (writtenOperationParts t)

/-- Every single inspection of a written description, in the order in which they
have their turn. -/
def documentParts (w : Description) : List Inspection :=
  [targetNamespace w] ++ w.imports.map (foreignImport w) ++ w.types.toList.flatMap typesParts
    ++ w.interfaces.flatMap (writtenInterfaceParts w.types)

theorem types_eq (t : Types) : types t = all (typesParts t) := by
  have himported : each t.imported importedSchema = all (t.imported.flatMap importedSchemaParts) :=
    each_eq_all (fun _ => rfl) _
  rw [types, himported]
  exact all_append_all_cons [] _ _

theorem writtenOperation_eq (t : Option Types) (o : Operation) :
    writtenOperation t o = all (writtenOperationParts t o) := by
  have hmessages : (each o.messages fun m => contentElement t m.content m.place)
      = all (o.messages.flatMap fun m => contentParts t m.content m.place) :=
    each_eq_all (fun _ => rfl) _
  rw [writtenOperation, hmessages]
  exact all_append_all_cons [] _ _

theorem writtenInterface_eq (t : Option Types) (i : Interface) :
    writtenInterface t i = all (writtenInterfaceParts t i) := by
  have hfaults : (each i.faults fun f => contentElement t f.content f.place)
      = all (i.faults.flatMap fun f => contentParts t f.content f.place) :=
    each_eq_all (fun _ => rfl) _
  rw [writtenInterface, hfaults, each_eq_all (writtenOperation_eq t)]
  exact (all_append_all_cons [_] _ _).trans (all_append_all _ _)

theorem document_eq (w : Description) : document w = all (documentParts w) := by
  have himports : each w.imports (foreignImport w) = all (w.imports.map (foreignImport w)) := rfl
  rw [document, himports, each_eq_all types_eq, each_eq_all (writtenInterface_eq w.types)]
  exact (all_append_all_cons [_] _ _).trans
    ((all_append_all_cons _ _ _).trans (all_append_all _ _))

end

/-! ## What the single inspections tell -/

/-- Each of the inspections tells the same to any reporter, and this is what they
tell one after the other. -/
structure TellEach (parts : List Inspection) (vs : List Violation) : Prop where
  alone : ∀ p ∈ parts, p.Tells p.reports
  together : parts.flatMap reports = vs

theorem tellEach_nil : TellEach [] [] where
  alone := by simp
  together := rfl

section

variable {ps qs : List Inspection} {vs ws : List Violation} {α : Type}

theorem Tells.cons {p : Inspection} (h : p.Tells vs) (hs : TellEach ps ws) :
    TellEach (p :: ps) (vs ++ ws) where
  alone := List.forall_mem_cons.2 ⟨h.own, hs.alone⟩
  together := by rw [List.flatMap_cons, h.reports_eq, hs.together]

theorem Tells.one {p : Inspection} (h : p.Tells vs) : TellEach [p] vs :=
  List.append_nil vs ▸ h.cons tellEach_nil

theorem TellEach.append (h : TellEach ps vs) (h' : TellEach qs ws) :
    TellEach (ps ++ qs) (vs ++ ws) where
  alone := List.forall_mem_append.2 ⟨h.alone, h'.alone⟩
  together := by rw [List.flatMap_append, h.together, h'.together]

theorem tellEach_flatMap {f : α → List Inspection} {g : α → List Violation}
    (h : ∀ x, TellEach (f x) (g x)) (xs : List α) : TellEach (xs.flatMap f) (xs.flatMap g) := by
  induction xs with
  | nil => exact tellEach_nil
  | cons x xs ih => exact (h x).append ih

theorem tellEach_map {f : α → Inspection} {g : α → List Violation} (h : ∀ x, (f x).Tells (g x))
    (xs : List α) : TellEach (xs.map f) (xs.flatMap g) := by
  rw [List.map_eq_flatMap]
  exact tellEach_flatMap (fun x => (h x).one) xs

end

section

open Component

theorem tellEach_operationParts (o : Operation) :
    TellEach (operationParts o) (operationChecks o) :=
  (((tells_operationStyles o).one.append (tells_operationPattern o).one).append
    (tells_messageLabels o).one).append (tells_faultReferences o).one

theorem tellEach_interfaceParts (d : Description) (i : Interface) :
    TellEach (interfaceParts d i) (interfaceChecks d i) :=
  (((tells_interfaceCycle d i).one.append (tells_faultNames i).one).append
    (tells_operationNames i).one).append (tellEach_flatMap tellEach_operationParts _)

theorem tellEach_bindingParts (d : Description) (b : Binding) :
    TellEach (bindingParts d b) (bindingChecks d b) := by
  have hops (o : BindingOperation) : TellEach (boundOperationParts o) (boundOperationChecks o) :=
    (tells_boundMessageLabels o).one.append (tells_boundFaultReferences o).one
  exact (((((tells_boundFaults b).one.append (tells_bindingCompleteness d b).one).append
    (tells_bindingType b).one).append (tells_boundOperationNames b).one).append
    (tellEach_flatMap hops _)).append (tells_boundFaultNames b).one

theorem tellEach_endpointParts (d : Description) (s : Service) (e : Endpoint) :
    TellEach (endpointParts d s e) (endpointChecks d s e) :=
  (tells_endpointAddress e).one.append (tells_endpointInterface d s e).one

theorem tellEach_componentParts (d : Description) :
    TellEach (componentParts d) (Check.component d) := by
  have h := ((((((tells_interfaceNames d.interfaces).one.append
    (tellEach_flatMap (tellEach_interfaceParts d) d.interfaces)).append
    (tells_bindingNames d.bindings).one).append
    (tellEach_flatMap (tellEach_bindingParts d) d.bindings)).append
    (tells_serviceNames d.services).one).append
    (tellEach_flatMap (fun s => tellEach_flatMap (tellEach_endpointParts d s) s.endpoints)
      d.services)).append (tells_references d).one
  simpa only [componentParts, Check.component, interfaceWalk, bindingWalk, serviceWalk,
    List.append_assoc] using h

end

section

open Written

theorem tellEach_contentParts (t : Option Types) (c : Option Content) (place : Locator) :
    TellEach (contentParts t c place) (Check.contentElement t c place) :=
  tellEach_map (fun q => tells_elementAvailability t q place) _

theorem tellEach_typesParts (t : Types) : TellEach (typesParts t) (typesChecks t) :=
  (tellEach_flatMap (fun s => (tells_importedNamespace s).one.append (tells_importedMatch s).one)
    t.imported).append (tells_schemaDeclarations t).one

theorem tellEach_writtenOperationParts (t : Option Types) (o : Operation) :
    TellEach (writtenOperationParts t o) (writtenOperationChecks t o) := by
  have hmessages := tellEach_flatMap (fun m : Message =>
    tellEach_contentParts t m.content m.place) o.messages
  rw [writtenOperationChecks, List.append_assoc]
  exact hmessages.append
    ((tells_writtenMessageLabels o).one.append (tells_writtenFaultLabels o).one)

theorem tellEach_writtenInterfaceParts (t : Option Types) (i : Interface) :
    TellEach (writtenInterfaceParts t i) (writtenInterfaceChecks t i) := by
  have hfaults := tellEach_flatMap (fun f : InterfaceFault =>
    tellEach_contentParts t f.content f.place) i.faults
  exact ((tells_defaultStyles i).one.append hfaults).append
    (tellEach_flatMap (tellEach_writtenOperationParts t) i.operations)

theorem tellEach_documentParts (w : Description) :
    TellEach (documentParts w) (Check.document w) :=
  (((tells_targetNamespace w).one.append (tellEach_map (tells_foreignImport w) w.imports)).append
    (tellEach_flatMap tellEach_typesParts w.types.toList)).append
    (tellEach_flatMap (tellEach_writtenInterfaceParts w.types) w.interfaces)

end

end Inspection

/-! ## The log of both validators -/

theorem run_inspectDocument (w : Written.Description) (log : Log) :
    (inspectDocument w).run log = (Summary.of (document w), log ++ document w) := by
  have h := Inspection.tellEach_documentParts w
  rw [inspectDocument, Inspection.document_eq,
    (Inspection.tells_all h.alone).run_summarize_eq, h.together]

theorem run_inspectComponents (d : Component.Description) (log : Log) :
    (inspectComponents d).run log = (Summary.of (component d), log ++ component d) := by
  have h := Inspection.tellEach_componentParts d
  rw [inspectComponents, Inspection.component_eq,
    (Inspection.tells_all h.alone).run_summarize_eq, h.together]

/-- A validation makes the inspections of the written description and of its
components, one after the other, before it runs the table. -/
theorem validate_eq_inspected (registry : Registry) (resolver : Resolver) (w : Written.Description)
    (d : Component.Description) :
    validate registry resolver w d = do
      let table ← (Table.ofRegistry registry).mapError .registry
      let (_, earlier) := (do discard (inspectDocument w); inspectComponents d).run []
      let (session, result) := table.run resolver w d (.on earlier)
      let _ ← result
      return session.log.dropRepeats earlier.length := by
  have hearlier : (do discard (inspectDocument w); inspectComponents d).run []
      = (Summary.of (component d), document w ++ component d) := by
    calc (do discard (inspectDocument w); inspectComponents d).run []
      _ = (inspectComponents d).run ((inspectDocument w).run []).2 := rfl
      _ = (Summary.of (component d), document w ++ component d) := by
        rw [run_inspectDocument, run_inspectComponents, List.nil_append]
  rw [hearlier]
  rfl

/-! ## The law -/

/-- A validator makes single inspections, each as if it were the only one, and
finds some violations. -/
structure MakesEach (validator : StateM Log Summary) (parts : List Inspection)
    (found : List Violation) : Prop where
  /-- It makes these, one after the other. -/
  inOrder : validator = (Inspection.all parts).summarize
  /-- Whatever was reported before, and to whom, each inspection reports and
  answers what it does by itself. -/
  alone : ∀ p ∈ parts, ∀ (σ : Type) [Reporter σ] (s : σ),
    p.run.run s = (p.holds, p.reports.foldl Reporter.report s)
  /-- An inspection fails if it reports something, and only then. -/
  fails : ∀ p ∈ parts, p.holds = p.reports.isEmpty
  /-- Together they report what is found. -/
  finds : parts.flatMap Inspection.reports = found
  /-- What is in the log stays, and what the inspections report follows. -/
  appends : ∀ log : Log, (validator.run log).2 = log ++ parts.flatMap Inspection.reports
  /-- The summary is of what was added. -/
  counts : ∀ log : Log, (validator.run log).1 = Summary.of (parts.flatMap Inspection.reports)
  /-- All is well if it is for every inspection. -/
  valid : ∀ log : Log, (validator.run log).1.isValid = true ↔ ∀ p ∈ parts, p.holds = true

theorem makesEach_of_tellEach {validator : StateM Log Summary} {parts : List Inspection}
    {vs : List Violation} (hrun : validator = (Inspection.all parts).summarize)
    (h : Inspection.TellEach parts vs) (hvalid : (Summary.of vs).isValid = true ↔ vs = []) :
    MakesEach validator parts vs := by
  have hboth (log : Log) := (Inspection.tells_all h.alone).run_summarize_eq log
  refine ⟨hrun, fun p hp σ _ s => ?_, fun p hp => (h.alone p hp).holds_eq, h.together,
    fun log => ?_, fun log => ?_, fun log => ?_⟩
  · rw [(h.alone p hp).holds_eq]
    exact h.alone p hp σ s
  · rw [hrun, hboth]
  · rw [hrun, hboth]
  · rw [hrun, hboth, h.together, hvalid, ← h.together, List.flatMap_eq_nil_iff]
    exact forall₂_congr fun p hp => (h.alone p hp).holds_iff.symm

/-- Both validators make a fixed list of inspections, which find the violations
of all assertions. Each of these reports what it would by itself, after what is in
the log already, and whatever the others answer. A validator sums up what they
add, and is satisfied just if each of them is. -/
theorem a_validator_makes_each_inspection_by_itself (w : Written.Description)
    (d : Component.Description) :
    MakesEach (inspectDocument w) (Inspection.documentParts w) (document w) ∧
      MakesEach (inspectComponents d) (Inspection.componentParts d) (component d) := by
  constructor
  · exact makesEach_of_tellEach (congrArg Inspection.summarize (Inspection.document_eq w))
      (Inspection.tellEach_documentParts w) ((among_document w).isValid_iff (by decide))
  · exact makesEach_of_tellEach (congrArg Inspection.summarize (Inspection.component_eq d))
      (Inspection.tellEach_componentParts d) (isValid_component_iff d)

end Wsdl.Check
