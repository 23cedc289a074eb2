-- What a session counts. Every report reaches its log, and the count is always that
-- of what was reported since it was last taken, whoever reports or takes it. A run
-- takes the count when it starts. So what it counts in the end is its own, however
-- earlier runs left the session.
import Mathlib.Data.List.DropRight
import Wsdl.Check.Inspection.Basic
import Wsdl.Proofs.Walk

namespace Wsdl.Check

/-! ## Actions -/

namespace Action

def violation? : Action → Option Violation
  | report v => some v
  | take => none

/-- The violations that some actions report. -/
def reported (as : List Action) : List Violation := as.filterMap violation?

/-- The actions since the count was last taken. -/
def sinceTaken (as : List Action) : List Action := as.rtakeWhile (· ≠ take)

theorem reported_append (as bs : List Action) :
    reported (as ++ bs) = reported as ++ reported bs := List.filterMap_append

theorem sinceTaken_append_report (as : List Action) (v : Violation) :
    sinceTaken (as ++ [report v]) = sinceTaken as ++ [report v] :=
  List.rtakeWhile_concat_pos _ as _ (by simp)

theorem sinceTaken_append_take (as : List Action) : sinceTaken (as ++ [take]) = [] :=
  List.rtakeWhile_concat_neg _ as _ (by simp)

end Action

/-! ## The count and the log -/

/-- What a session has that was on a log at first, after some actions. -/
structure Tallies (log : Log) (as : List Action) (s : Session) : Prop where
  /-- Every report has reached the log, once, unchanged and in order. -/
  log_eq : s.log = log ++ Action.reported as
  /-- The count is that of the reports since it was taken. -/
  since_eq : s.since = Summary.of (Action.reported (Action.sinceTaken as))

section

variable {log : Log} {as : List Action} {s : Session}

theorem tallies_on (log : Log) : Tallies log [] (.on log) := ⟨(List.append_nil log).symm, rfl⟩

/-- Log and count keep in step, whatever is done next. -/
theorem Tallies.perform (h : Tallies log as s) (a : Action) :
    Tallies log (as ++ [a]) (a.perform s) := by
  obtain ⟨hlog, hsince⟩ := h
  cases a with
  | report v =>
    constructor
    · calc s.log ++ [v]
        _ = log ++ (Action.reported as ++ [v]) := by rw [hlog, List.append_assoc]
        _ = log ++ Action.reported (as ++ [.report v]) := by rw [Action.reported_append]; rfl
    · calc s.since.record v.id v.severity
        _ = Summary.of (Action.reported (Action.sinceTaken as) ++ [v]) := by
          rw [hsince, Summary.of, Summary.of, List.foldl_append]; rfl
        _ = Summary.of (Action.reported (Action.sinceTaken (as ++ [.report v]))) := by
          rw [Action.sinceTaken_append_report, Action.reported_append]; rfl
  | take =>
    constructor
    · calc s.log
        _ = log ++ (Action.reported as ++ []) := by rw [hlog, List.append_nil]
        _ = log ++ Action.reported (as ++ [.take]) := by rw [Action.reported_append]; rfl
    · rw [Action.sinceTaken_append_take]
      rfl

theorem Tallies.foldl_perform (h : Tallies log as s) (bs : List Action) :
    Tallies log (as ++ bs) (bs.foldl Action.perform s) := by
  induction bs generalizing as s with
  | nil => rwa [List.append_nil]
  | cons b bs ih =>
    rw [List.append_cons]
    exact ih (h.perform b)

end

/-! ## Runs -/

namespace Table

/-- What some invocations did, one after the other. -/
def actionsOf (is : List Invocation) : List Action := is.flatMap (·.outcome.actions)

theorem foldl_perform_actionsOf (is : List Invocation) (s : Session) :
    (actionsOf is).foldl Action.perform s
      = ⟨s.log ++ is.flatMap (·.outcome.reported), countAfter s.since is⟩ := by
  induction is generalizing s with
  | nil => simp [actionsOf, countAfter]
  | cons i is ih =>
    have hi : i.outcome.actions.foldl Action.perform s
        = ⟨s.log ++ i.outcome.reported, i.outcome.count s.since⟩ := by
      rw [← Outcome.log_perform, ← Outcome.since_perform]
      rfl
    rw [actionsOf, List.flatMap_cons, List.foldl_append, hi]
    refine (ih _).trans ?_
    rw [List.flatMap_cons, List.append_assoc]
    rfl

section

variable (t : Table) (resolver : Resolver) (w : Written.Description) (d : Component.Description)
  (s : Session)

/-- A walk does what its invocations do, to a session whose count was taken. -/
theorem session_walked :
    (t.walked resolver w d s).2.session
      = (actionsOf (t.invocations resolver w d s)).foldl Action.perform s.take.2 := by
  rw [walked_eq, foldl_perform_actionsOf]
  rfl

/-- What a run does to a session. It takes the count first, and once more if it ends
well. -/
def runActions : List Action :=
  let is := t.invocations resolver w d (.on [])
  .take :: actionsOf is ++
    match ending is with
    | .ok () => [.take]
    | .error _ => []

theorem invocations_congr (s' : Session) :
    t.invocations resolver w d s = t.invocations resolver w d s' := by
  rw [invocations_eq_follow, invocations_eq_follow]

theorem run_eq_foldl_perform :
    (t.run resolver w d s).1 = (t.runActions resolver w d).foldl Action.perform s := by
  have hwalked := t.session_walked resolver w d s
  have hending : (t.walked resolver w d s).1 = ending (t.invocations resolver w d s) := by
    rw [walked_eq]
  rw [t.invocations_congr resolver w d s (.on [])] at hwalked hending
  rw [runActions, List.foldl_append, List.foldl_cons]
  unfold run
  split
  · next e p hp =>
    rw [hp] at hwalked hending
    rw [← hending]
    exact hwalked
  · next p hp =>
    rw [hp] at hwalked hending
    rw [← hending]
    exact congrArg (fun s : Session => s.take.2) hwalked

end

end Table

/-! ## Uses of a session -/

/-- What a session is used for. -/
inductive Use where
  | report (v : Violation)
  /-- Reports a violation to it as to any reporter. -/
  | tell (v : Violation)
  | take
  /-- Runs a table on a description, with names that lead somewhere. -/
  | run (t : Table) (resolver : Resolver) (w : Written.Description) (d : Component.Description)

namespace Use

def perform (s : Session) : Use → Session
  | report v => s.report v
  | tell v => ((Check.tell v).run s).2
  | take => s.take.2
  | run t resolver w d => (t.run resolver w d s).1

/-- What the use comes to. -/
def actions : Use → List Action
  | report v => [.report v]
  | tell v => [.report v]
  | take => [.take]
  | run t resolver w d => t.runActions resolver w d

theorem perform_eq (u : Use) (s : Session) : u.perform s = u.actions.foldl Action.perform s := by
  cases u with
  | report v => rfl
  | tell v => rfl
  | take => rfl
  | run t resolver w d => exact t.run_eq_foldl_perform resolver w d s

end Use

/-- A session on a log, after some uses. -/
def sessionAfter (log : Log) (uses : List Use) : Session := uses.foldl Use.perform (.on log)

theorem tallies_sessionAfter (log : Log) (uses : List Use) :
    Tallies log (uses.flatMap Use.actions) (sessionAfter log uses) := by
  have hactions : sessionAfter log uses
      = (uses.flatMap Use.actions).foldl Action.perform (.on log) := by
    rw [sessionAfter, List.foldl_flatMap]
    congr 1
    funext s u
    exact u.perform_eq s
  rw [hactions]
  exact (tallies_on log).foldl_perform _

/-! ## The law -/

namespace Table

/-- A run counts what it reported itself since the count was last taken in it. -/
structure CountsOwn (t : Table) (resolver : Resolver) (w : Written.Description)
    (d : Component.Description) (s : Session) : Prop where
  /-- What it reported is added to the log. -/
  log : (t.run resolver w d s).1.log
    = s.log ++ Action.reported (actionsOf (t.invocations resolver w d s))
  /-- If it ends well, it gives the summary of what it reported at last. -/
  result : ∀ c, (t.run resolver w d s).2 = .ok c →
    c = Summary.of (Action.reported (Action.sinceTaken
      (actionsOf (t.invocations resolver w d s))))
  /-- Each assertion starts with such a count of what was done before it in the run. -/
  start : ∀ earlier i later, t.invocations resolver w d s = earlier ++ i :: later →
    i.outcome = i.assertion.run resolver i.target
      (Summary.of (Action.reported (Action.sinceTaken (actionsOf earlier))))
  /-- On any other session it does the same, and ends alike. -/
  alike : ∀ s', t.invocations resolver w d s = t.invocations resolver w d s' ∧
    (t.run resolver w d s).2 = (t.run resolver w d s').2

theorem countAfter_empty (is : List Invocation) :
    countAfter .empty is
      = Summary.of (Action.reported (Action.sinceTaken (actionsOf is))) := by
  have h := ((tallies_on []).foldl_perform (actionsOf is)).since_eq
  rwa [foldl_perform_actionsOf] at h

theorem countsOwn (t : Table) (resolver : Resolver) (w : Written.Description)
    (d : Component.Description) (s : Session) : t.CountsOwn resolver w d s where
  log := by
    rw [log_run]
    congr 1
    simp only [Action.reported, actionsOf, List.filterMap_flatMap]
    rfl
  result c hc := by
    rw [result_run] at hc
    cases he : ending (t.invocations resolver w d s) with
    | error e =>
      rw [he] at hc
      cases hc
    | ok _ =>
      rw [he] at hc
      rw [← Except.ok.inj hc, countAfter_empty]
  start earlier i later hi := by
    rw [invocations_eq_follow] at hi
    rw [← countAfter_empty]
    exact (of_follow_eq_append hi).1
  alike s' := by
    refine ⟨t.invocations_congr resolver w d s s', ?_⟩
    rw [result_run, result_run, t.invocations_congr resolver w d s s']

end Table

/-- However a session was used, every report has reached its log, in order, and its count is
that of the reports since it was last taken. The run of a table, which is an accepted
registry, gives the summary of its own reports since then if it ends well, whatever its
assertions take. What the session counted before makes no difference to it. -/
theorem a_session_counts_what_was_reported_since_it_was_taken (log : Log) (uses : List Use) :
    Tallies log (uses.flatMap Use.actions) (sessionAfter log uses) ∧
      ∀ (t : Table) (resolver : Resolver) (w : Written.Description) (d : Component.Description),
        t.CountsOwn resolver w d (sessionAfter log uses) :=
  ⟨tallies_sessionAfter log uses, fun t resolver w d => t.countsOwn resolver w d _⟩

/-- Takes the count between its reports. -/
def exampleForgetful : Assertion where
  id := "Endpoint-2"
  run _ _ c :=
    ⟨[.report ⟨.nowhere, "Endpoint-2", [toString c.errors], .warning⟩, .take,
      .report ⟨.nowhere, "Endpoint-3", [], .error⟩], none⟩

def exampleForgetfulTable : Table := ⟨[⟨exampleForgetful, .endpoint⟩], by decide⟩

/-- A run that gives up, and a report. -/
def exampleUses : List Use :=
  [.run Table.exampleTable .standard Table.exampleWritten Table.exampleOffer,
   .tell ⟨.nowhere, "Endpoint-4", [], .error⟩]

def exampleSession : Session := sessionAfter [] exampleUses

theorem a_run_counts_its_last_report_after_one_that_gave_up :
    exampleSession.since = ⟨1, 2, ["Endpoint-1", "Endpoint-4"]⟩ ∧
      (exampleForgetfulTable.run .standard Table.exampleWritten Table.exampleOffer
        exampleSession).2 = .ok ⟨1, 0, ["Endpoint-3"]⟩ ∧
      Summary.of (Action.reported (Action.sinceTaken (Table.actionsOf
        (exampleForgetfulTable.invocations .standard Table.exampleWritten Table.exampleOffer
          exampleSession)))) = ⟨1, 0, ["Endpoint-3"]⟩ ∧
      (exampleForgetfulTable.run .standard Table.exampleWritten Table.exampleOffer
        exampleSession).1.log.length = 9 := by
  obtain ⟨⟨_, hsince⟩, hruns⟩ :=
    a_session_counts_what_was_reported_since_it_was_taken [] exampleUses
  have hrun := hruns exampleForgetfulTable .standard Table.exampleWritten Table.exampleOffer
  have hok : (exampleForgetfulTable.run .standard Table.exampleWritten Table.exampleOffer
      exampleSession).2 = .ok ⟨1, 0, ["Endpoint-3"]⟩ :=
    (hrun.alike (.on [])).2.trans rfl
  refine ⟨hsince.trans rfl, hok, (hrun.result _ hok).symm, ?_⟩
  exact (congrArg List.length hrun.log).trans rfl

end Wsdl.Check
