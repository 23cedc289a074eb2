-- The walk of a table. It runs what a fixed schedule lists, in its order,
-- until an assertion gives up. Of what was done before it, an assertion sees
-- only the count, so what a walk invokes does not depend on the log that it
-- adds to.
import Mathlib.Data.List.Basic
import Wsdl.Check.Table

namespace Wsdl.Check

/-! ## The schedule -/

/-- The nodes of a binding operation: it, its messages and its faults. -/
def operationNodes (b : Component.Binding) (o : Component.BindingOperation) : List Node :=
  .bindingOperation b o :: (o.messages.map (.bindingMessage o)
    ++ o.faults.map (.bindingFaultReference o))

/-- The nodes of a binding: it, its faults, and each operation with its
own. -/
def bindingNodes (b : Component.Binding) : List Node :=
  .binding b :: (b.faults.map (.bindingFault b) ++ b.operations.flatMap (operationNodes b))

def serviceNodes (s : Component.Service) : List Node :=
  .service s :: s.endpoints.map (.endpoint s)

/-- The nodes of a description in the order of the walk. -/
def nodes (w : Written.Description) (d : Component.Description) : List Node :=
  [.descriptionElement w, .description d] ++ d.interfaces.map .interface
    ++ d.bindings.flatMap bindingNodes ++ d.services.flatMap serviceNodes

namespace Table

/-- An assertion and the target that it is to run on. -/
abbrev Step := Assertion × Target

/-- Every assertion on every node of its kind, in the order of the walk. -/
def schedule (t : Table) (w : Written.Description) (d : Component.Description) : List Step :=
  (nodes w d).flatMap fun n => (t.assertionsFor n.kind).map fun a => (a, ⟨d, n⟩)

/-- Runs the assertion of a step. -/
def invokeStep (resolver : Resolver) (step : Step) : Walk Unit := invoke resolver step.2 step.1

theorem forM_flatMap {m : Type → Type} [Monad m] [LawfulMonad m] {α β : Type} (l : List α)
    (f : α → List β) (g : β → m Unit) :
    forM (l.flatMap f) g = forM l fun a => forM (f a) g := by
  induction l with
  | nil => simp
  | cons a l ih => simp [List.forM_append, ih]

section

variable (t : Table) (resolver : Resolver) (w : Written.Description) (d : Component.Description)

theorem visit_eq_forM (n : Node) :
    t.visit resolver d n
      = forM ((t.assertionsFor n.kind).map fun a => (a, ⟨d, n⟩)) (invokeStep resolver) := by
  rw [List.forM_map]
  rfl

/-- The loops of a walk, one in another, go through the list of the nodes. -/
theorem walk_eq_forM_nodes : t.walk resolver w d = forM (nodes w d) (t.visit resolver d) := by
  simp only [walk, nodes, bindingNodes, operationNodes, serviceNodes, List.forM_eq_forM,
    List.forM_append, List.forM_cons, List.forM_nil, List.forM_map, forM_flatMap, bind_assoc,
    pure_bind]

theorem walk_eq_forM_schedule :
    t.walk resolver w d = forM (t.schedule w d) (invokeStep resolver) := by
  rw [walk_eq_forM_nodes, schedule, forM_flatMap]
  exact congrArg (forM (nodes w d)) (funext (t.visit_eq_forM resolver d))

end

end Table

/-! ## Outcomes -/

namespace Outcome

/-- The violations that an outcome reports. -/
def reported (o : Outcome) : List Violation :=
  o.actions.filterMap fun
    | .report v => some v
    | .take => none

/-- An outcome adds what it reports to the log, whatever it takes. -/
theorem log_perform (o : Outcome) (s : Session) :
    (o.perform s).log = s.log ++ o.reported := by
  unfold perform reported
  induction o.actions generalizing s with
  | nil => simp
  | cons a actions ih =>
    rw [List.foldl_cons, ih]
    cases a with
    | report v => simp [Action.perform, Session.report]
    | take => simp [Action.perform, Session.take]

@[simp] theorem reported_ofViolations (vs : List Violation) :
    (ofViolations vs).reported = vs := by
  simp [reported, ofViolations, List.filterMap_map]

/-- The count after the outcome. -/
def count (o : Outcome) (c : Summary) : Summary := (o.perform ⟨[], c⟩).since

/-- The log has no part in the count. -/
theorem since_perform (o : Outcome) (s : Session) : (o.perform s).since = o.count s.since := by
  have h : ∀ (actions : List Action) (s s' : Session), s.since = s'.since →
      (actions.foldl Action.perform s).since = (actions.foldl Action.perform s').since := by
    intro actions
    induction actions with
    | nil => exact fun _ _ hs => hs
    | cons a actions ih =>
      intro s s' hs
      refine ih _ _ ?_
      cases a with
      | report v => simp [Action.perform, Session.report, hs]
      | take => rfl
  exact h o.actions s ⟨[], s.since⟩ rfl

end Outcome

/-! ## Following the schedule -/

namespace Table

/-- The step that was taken. -/
def Invocation.step (i : Invocation) : Step := (i.assertion, i.target)

/-- The count after some invocations. -/
def countAfter (c : Summary) (is : List Invocation) : Summary :=
  is.foldl (fun c i => i.outcome.count c) c

/-- How some invocations end: with the first error among them, if there is
one. -/
def ending (is : List Invocation) : Except Error Unit :=
  match is.findSome? (·.outcome.failure) with
  | some e => .error e
  | none => .ok ()

/-- How far a walk has come with some more invocations. -/
def Progress.after (p : Progress) (is : List Invocation) : Progress :=
  ⟨⟨p.session.log ++ is.flatMap (·.outcome.reported), countAfter p.session.since is⟩,
    p.invocations ++ is⟩

/-- What running an assertion comes to, from a count. -/
def invocationOf (resolver : Resolver) (c : Summary) (step : Step) : Invocation :=
  ⟨step.1, step.2, step.1.run resolver step.2 c⟩

/-- The invocations that follow some steps until an assertion gives up. -/
def follow (resolver : Resolver) (c : Summary) : List Step → List Invocation
  | [] => []
  | step :: steps =>
    let i := invocationOf resolver c step
    match i.outcome.failure with
    | some _ => [i]
    | none => i :: follow resolver (i.outcome.count c) steps

theorem Progress.after_cons (p : Progress) (i : Invocation) (is : List Invocation) :
    p.after (i :: is) = (p.after [i]).after is := by
  simp [Progress.after, countAfter]

section

variable (resolver : Resolver)

/-- Running an assertion ends with its error, and notes it in any case. -/
theorem run_invokeStep (step : Step) (p : Progress) :
    (invokeStep resolver step).run.run p
      = (ending [invocationOf resolver p.session.since step],
        p.after [invocationOf resolver p.session.since step]) := by
  have hafter : p.after [invocationOf resolver p.session.since step]
      = ⟨(step.1.run resolver step.2 p.session.since).perform p.session,
        p.invocations ++ [invocationOf resolver p.session.since step]⟩ := by
    simp [Progress.after, countAfter, invocationOf, ← Outcome.log_perform, ← Outcome.since_perform]
  change (match (step.1.run resolver step.2 p.session.since).failure with
    | some e => (throw e : Walk Unit)
    | none => return ()).run.run ⟨_, _⟩ = _
  rw [hafter]
  cases h : (step.1.run resolver step.2 p.session.since).failure with
  | none =>
    simp only [ending, invocationOf, List.findSome?, h]
    rfl
  | some e =>
    simp only [ending, invocationOf, List.findSome?, h]
    rfl

/-- The second part of a walk starts where the first one came to, unless that
one ended early. -/
theorem run_bind (x y : Walk Unit) (p : Progress) :
    (x >>= fun _ => y).run.run p =
      match x.run.run p with
      | (.ok _, p) => y.run.run p
      | (.error e, p) => (.error e, p) := by
  rw [ExceptT.run_bind, StateT.run_bind]
  rcases x.run.run p with ⟨_ | _, p⟩ <;> rfl

/-- Running some steps one after the other comes as far as following them. -/
theorem run_forM_invokeStep (steps : List Step) (p : Progress) :
    (forM steps (invokeStep resolver)).run.run p
      = (ending (follow resolver p.session.since steps),
        p.after (follow resolver p.session.since steps)) := by
  induction steps generalizing p with
  | nil =>
    simp only [follow, Progress.after, countAfter, List.flatMap_nil, List.foldl_nil,
      List.append_nil]
    rfl
  | cons step steps ih =>
    rw [List.forM_cons, run_bind, run_invokeStep, follow]
    cases h : (invocationOf resolver p.session.since step).outcome.failure with
    | none =>
      simp only [ending, List.findSome?, h]
      rw [ih, ← Progress.after_cons]
      rfl
    | some e => simp only [ending, List.findSome?, h]

/-! ## What is followed -/

variable {resolver} {c : Summary}

theorem steps_follow_of_none {steps : List Step}
    (h : ∀ i ∈ follow resolver c steps, i.outcome.failure = none) :
    (follow resolver c steps).map Invocation.step = steps := by
  fun_induction follow resolver c steps with
  | case1 => rfl
  | case2 c step steps i e he =>
    simp [he] at h
  | case3 c step steps i he ih =>
    rw [List.map_cons, ih fun j hj => h j (List.mem_cons_of_mem i hj)]
    rfl

theorem steps_follow (steps : List Step) :
    (follow resolver c steps).map Invocation.step <+: steps := by
  fun_induction follow resolver c steps with
  | case1 => exact List.prefix_rfl
  | case2 c step steps i e he => exact ⟨steps, rfl⟩
  | case3 c step steps i he ih => exact (List.prefix_cons_inj _).2 ih

/-- Each invocation runs its assertion with the count that those before it
left. Only the last one may have given up. -/
theorem of_follow_eq_append {steps : List Step} {earlier later : List Invocation} {i : Invocation}
    (h : follow resolver c steps = earlier ++ i :: later) :
    i.outcome = i.assertion.run resolver i.target (countAfter c earlier) ∧
      (∀ j ∈ earlier, j.outcome.failure = none) ∧
      ∀ e, i.outcome.failure = some e → later = [] := by
  induction steps generalizing c earlier with
  | nil => simp [follow] at h
  | cons step steps ih =>
    rw [follow] at h
    cases he : (invocationOf resolver c step).outcome.failure with
    | none =>
      simp only [he] at h
      cases earlier with
      | nil =>
        obtain ⟨rfl, _⟩ := List.cons.inj h
        exact ⟨rfl, by simp, fun e hi => by simp [he] at hi⟩
      | cons j earlier =>
        obtain ⟨rfl, hrest⟩ := List.cons.inj h
        obtain ⟨houtcome, hnone, hlast⟩ := ih hrest
        exact ⟨houtcome, List.forall_mem_cons.2 ⟨he, hnone⟩, hlast⟩
    | some e =>
      simp only [he] at h
      obtain ⟨rfl, hi⟩ : earlier = [] ∧ [invocationOf resolver c step] = i :: later := by
        cases earlier with
        | nil => exact ⟨rfl, h⟩
        | cons _ _ => simp at h
      obtain ⟨rfl, rfl⟩ := List.cons.inj hi
      exact ⟨rfl, by simp, fun _ _ => rfl⟩

end

/-! ## How a run ends -/

theorem ending_of_none {is : List Invocation} (h : ∀ i ∈ is, i.outcome.failure = none) :
    ending is = .ok () := by
  rw [ending, List.findSome?_eq_none_iff.2 h]

theorem ending_append {is : List Invocation} {i : Invocation} {e : Error}
    (h : ∀ j ∈ is, j.outcome.failure = none) (he : i.outcome.failure = some e) :
    ending (is ++ [i]) = .error e := by
  rw [ending, List.findSome?_append, List.findSome?_eq_none_iff.2 h]
  simp [he]

section

variable (t : Table) (resolver : Resolver) (w : Written.Description) (d : Component.Description)
  (s : Session)

/-- What a walk invokes does not depend on the session. -/
theorem invocations_eq_follow :
    t.invocations resolver w d s = follow resolver .empty (t.schedule w d) := by
  rw [invocations, walked, walk_eq_forM_schedule, run_forM_invokeStep]
  exact List.nil_append _

theorem walked_eq :
    t.walked resolver w d s
      = (ending (t.invocations resolver w d s),
        Progress.after ⟨s.take.2, []⟩ (t.invocations resolver w d s)) := by
  rw [invocations_eq_follow, walked, walk_eq_forM_schedule, run_forM_invokeStep]
  rfl

/-- A run adds to the log what its invocations report. -/
theorem log_run :
    (t.run resolver w d s).1.log
      = s.log ++ (t.invocations resolver w d s).flatMap (·.outcome.reported) := by
  rw [run, walked_eq]
  cases ending (t.invocations resolver w d s) <;> rfl

/-- A run gives the count of its invocations, unless one of them gave up. -/
theorem result_run :
    (t.run resolver w d s).2
      = (ending (t.invocations resolver w d s)).map fun _ =>
        countAfter .empty (t.invocations resolver w d s) := by
  rw [run, walked_eq]
  cases ending (t.invocations resolver w d s) <;> rfl

end

/-! ## Steps that do not look at the count -/

/-- What a step reports when nothing is counted yet. -/
def reportedBy (resolver : Resolver) (step : Step) : List Violation :=
  (step.1.run resolver step.2 .empty).reported

/-- The step does not look at the count, and does not give up. -/
def Steady (resolver : Resolver) (step : Step) : Prop :=
  ∀ c, step.1.run resolver step.2 c = step.1.run resolver step.2 .empty ∧
    (step.1.run resolver step.2 c).failure = none

/-- Steady steps are all taken, and each reports what it does by itself. -/
theorem follow_of_steady {resolver : Resolver} {steps : List Step}
    (h : ∀ step ∈ steps, Steady resolver step) (c : Summary) :
    (follow resolver c steps).flatMap (·.outcome.reported) = steps.flatMap (reportedBy resolver) ∧
      ∀ i ∈ follow resolver c steps, i.outcome.failure = none := by
  induction steps generalizing c with
  | nil => simp [follow]
  | cons step steps ih =>
    obtain ⟨hrun, hnone⟩ := h step List.mem_cons_self c
    have hi : (invocationOf resolver c step).outcome.failure = none := hnone
    obtain ⟨hreported, hall⟩ := ih (fun step hs => h step (List.mem_cons_of_mem _ hs))
      ((invocationOf resolver c step).outcome.count c)
    simp only [follow, hi]
    refine ⟨?_, List.forall_mem_cons.2 ⟨hi, hall⟩⟩
    rw [List.flatMap_cons, List.flatMap_cons, hreported, reportedBy, ← hrun]
    rfl

end Table

/-! ## The built-in assertions -/

theorem steady_of_mem_builtIn (resolver : Resolver) (d : Component.Description) (n : Node)
    {a : Assertion} (ha : a ∈ builtIn n.kind) : Table.Steady resolver (a, ⟨d, n⟩) := by
  intro c
  cases n with
  | descriptionElement w =>
    simp only [Node.kind, builtIn, List.mem_cons, List.not_mem_nil, or_false] at ha
    rcases ha with rfl | rfl <;> exact ⟨rfl, rfl⟩
  | description d =>
    obtain rfl := List.mem_singleton.1 ha
    exact ⟨rfl, rfl⟩
  | interface i =>
    obtain rfl := List.mem_singleton.1 ha
    exact ⟨rfl, rfl⟩
  | _ => cases ha

namespace Table

/-- The table of the built-in assertions alone. -/
def builtInOnly : Table := ⟨[], rfl⟩

theorem ofRegistry_nil : Table.ofRegistry [] = .ok Table.builtInOnly := rfl

theorem steady_of_mem_schedule_builtInOnly (resolver : Resolver) {w : Written.Description}
    {d : Component.Description} {step : Step} (h : step ∈ builtInOnly.schedule w d) :
    Steady resolver step := by
  obtain ⟨n, _, hn⟩ := List.mem_flatMap.1 h
  obtain ⟨a, ha, rfl⟩ := List.mem_map.1 hn
  have ha' : a ∈ builtIn n.kind := by
    simpa [assertionsFor, builtInOnly, Registry.assertionsFor] using ha
  exact steady_of_mem_builtIn resolver d n ha'

/-- A run of the built-in assertions ends well. -/
theorem run_builtInOnly_ok (resolver : Resolver) (w : Written.Description)
    (d : Component.Description) (s : Session) :
    ∃ count, (builtInOnly.run resolver w d s).2 = .ok count := by
  refine ⟨countAfter .empty (builtInOnly.invocations resolver w d s), ?_⟩
  rw [result_run, ending_of_none]
  · rfl
  · rw [invocations_eq_follow]
    exact (follow_of_steady (fun _ h => steady_of_mem_schedule_builtInOnly resolver h) .empty).2

theorem registry_of_ofRegistry {r : Registry} {t : Table} (h : Table.ofRegistry r = .ok t) :
    t.registry = r := by
  unfold ofRegistry at h
  split at h
  · exact (congrArg registry (Except.ok.inj h)).symm
  · cases h

theorem ofRegistry_registry (t : Table) : Table.ofRegistry t.registry = .ok t := by
  unfold ofRegistry
  split
  · rfl
  · rename_i f h
    exact absurd (t.accepted.symm.trans h) (by simp)

/-! ## The law -/

/-- For any registry without faults there is one schedule: every node of the
description in the order of the walk, and on each the built-in assertions for
its kind and then the registered ones. What a run invokes is the start of it,
each assertion with the count that those before it left. It is all of it unless
an assertion gives up. That one is the last to be invoked, and its error is the
result. The log gets what was reported until then. -/
theorem a_walk_follows_the_schedule_until_an_assertion_gives_up {r : Registry} {t : Table}
    (ht : Table.ofRegistry r = .ok t) (resolver : Resolver) (w : Written.Description)
    (d : Component.Description) (s : Session) :
    t.schedule w d = ((nodes w d).flatMap fun n =>
        (builtIn n.kind ++ r.assertionsFor n.kind).map fun a => (a, ⟨d, n⟩)) ∧
      (t.invocations resolver w d s).map Invocation.step <+: t.schedule w d ∧
      (∀ earlier i later, t.invocations resolver w d s = earlier ++ i :: later →
        i.outcome = i.assertion.run resolver i.target (countAfter .empty earlier) ∧
        ∀ e, i.outcome.failure = some e → later = [] ∧ (t.run resolver w d s).2 = .error e) ∧
      ((∀ i ∈ t.invocations resolver w d s, i.outcome.failure = none) →
        (t.invocations resolver w d s).map Invocation.step = t.schedule w d ∧
        (t.run resolver w d s).2
          = .ok (countAfter .empty (t.invocations resolver w d s))) ∧
      (t.run resolver w d s).1.log
        = s.log ++ (t.invocations resolver w d s).flatMap (·.outcome.reported) ∧
      (r = [] → ∃ count, (t.run resolver w d s).2 = .ok count) := by
  have hr : t.registry = r := registry_of_ofRegistry ht
  subst hr
  refine ⟨rfl, ?_, ?_, ?_, t.log_run resolver w d s, ?_⟩
  · rw [invocations_eq_follow]
    exact steps_follow _
  · intro earlier i later hi
    rw [result_run, hi]
    rw [invocations_eq_follow] at hi
    obtain ⟨houtcome, hnone, hlast⟩ := of_follow_eq_append hi
    refine ⟨houtcome, fun e he => ?_⟩
    obtain rfl := hlast e he
    exact ⟨rfl, by rw [ending_append hnone he]; rfl⟩
  · intro hnone
    rw [result_run, ending_of_none hnone]
    rw [invocations_eq_follow] at hnone ⊢
    exact ⟨steps_follow_of_none hnone, rfl⟩
  · intro hnil
    obtain rfl : builtInOnly = t := Except.ok.inj ((hnil ▸ ofRegistry_nil).symm.trans ht)
    exact run_builtInOnly_ok resolver w d s

/-- Reports on every endpoint, and gives up where something was reported
before. -/
def exampleImpatient : Assertion where
  id := "Endpoint-1"
  run _ _ c :=
    ⟨[.report ⟨.nowhere, "Endpoint-1", [toString c.warnings], .warning⟩],
      if c.warnings = 0 then none else some (.refused "enough")⟩

def exampleTable : Table := ⟨[⟨exampleImpatient, .endpoint⟩], by decide⟩

def exampleEndpoint (name : String) : Component.Endpoint := ⟨some name, none, none⟩

def exampleEndpoints : Component.Service :=
  ⟨none, none, [exampleEndpoint "First", exampleEndpoint "Second", exampleEndpoint "Third"]⟩

def exampleOffer : Component.Description := ⟨none, [], [], [exampleEndpoints], [], []⟩

def exampleWritten : Written.Description := ⟨none, none, [], [], none, [], [], [], .nowhere⟩

/-- The built-in assertions run on the description and its element. The one
that is registered runs on the first two endpoints, and not on the third. -/
theorem the_walk_ends_at_the_second_endpoint :
    Table.ofRegistry [⟨exampleImpatient, .endpoint⟩] = .ok exampleTable ∧
      (exampleTable.schedule exampleWritten exampleOffer).length = 6 ∧
      (exampleTable.invocations .standard exampleWritten exampleOffer (.on [])).length = 5 ∧
      (exampleTable.run .standard exampleWritten exampleOffer (.on [])).2
        = .error (.refused "enough") ∧
      (exampleTable.run .standard exampleWritten exampleOffer (.on [])).1.log
        = [⟨.nowhere, "Endpoint-1", ["0"], .warning⟩,
          ⟨.nowhere, "Endpoint-1", ["1"], .warning⟩] := by
  have ht : Table.ofRegistry [⟨exampleImpatient, .endpoint⟩] = .ok exampleTable :=
    ofRegistry_registry exampleTable
  obtain ⟨_, _, hsplit, _, hlog, _⟩ := a_walk_follows_the_schedule_until_an_assertion_gives_up ht
    .standard exampleWritten exampleOffer (.on [])
  have hinvoked : exampleTable.invocations .standard exampleWritten exampleOffer (.on [])
      = (exampleTable.invocations .standard exampleWritten exampleOffer (.on [])).take 4
        ++ [invocationOf .standard ⟨0, 1, ["Endpoint-1"]⟩
          (exampleImpatient,
            ⟨exampleOffer, .endpoint exampleEndpoints (exampleEndpoint "Second")⟩)] :=
    rfl
  obtain ⟨_, hend⟩ := hsplit _ _ _ hinvoked
  refine ⟨ht, rfl, rfl, (hend (.refused "enough") rfl).2, ?_⟩
  rw [hlog]
  rfl

end Table

end Wsdl.Check
