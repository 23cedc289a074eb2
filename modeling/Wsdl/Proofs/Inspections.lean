-- What an inspection does to the reporter that it is given. It tells the same
-- whatever was reported before, and fails where it reports something. So those
-- that have their turn one after the other do not matter to each other, and it
-- makes no difference which of them are made together.
import Wsdl.Check.Inspection.Component
import Wsdl.Proofs.Summary

namespace Wsdl.Check

namespace Inspection

/-! ## What an inspection tells -/

/-- The inspection reports some violations, in order, to any reporter that it is
made with, and fails if there are any. -/
def Tells (i : Inspection) (vs : List Violation) : Prop :=
  ∀ (σ : Type) [Reporter σ] (s : σ), i.run.run s = (vs.isEmpty, vs.foldl Reporter.report s)

theorem foldl_report_log (vs : List Violation) (log : Log) :
    vs.foldl Reporter.report log = log ++ vs := by
  induction vs generalizing log with
  | nil => rw [List.foldl_nil, List.append_nil]
  | cons v vs ih => rw [List.foldl_cons, ih, List.append_cons]; rfl

theorem foldl_report_session (vs : List Violation) (s : Session) :
    vs.foldl Reporter.report s
      = ⟨s.log ++ vs, vs.foldl (fun c v => c.record v.id v.severity) s.since⟩ := by
  induction vs generalizing s with
  | nil => rw [List.foldl_nil, List.append_nil]; rfl
  | cons v vs ih => rw [List.foldl_cons, ih, List.append_cons]; rfl

section

variable {i : Inspection} {vs : List Violation}

theorem Tells.reports_eq (h : i.Tells vs) : i.reports = vs := by
  rw [reports, h, foldl_report_log, List.nil_append]

theorem Tells.holds_eq (h : i.Tells vs) : i.holds = vs.isEmpty := by rw [holds, h]

theorem Tells.holds_iff (h : i.Tells vs) : i.holds = true ↔ vs = [] := by
  rw [h.holds_eq, List.isEmpty_iff]

theorem Tells.own (h : i.Tells vs) : i.Tells i.reports := h.reports_eq ▸ h

theorem run_summarize (i : Inspection) (log : Log) :
    i.summarize.run log =
      ((i.run.run (Session.on log)).2.since, (i.run.run (Session.on log)).2.log) := rfl

/-- The violations are added to the log, and counted. -/
theorem Tells.run_summarize_eq (h : i.Tells vs) (log : Log) :
    i.summarize.run log = (Summary.of vs, log ++ vs) := by
  rw [run_summarize, h, foldl_report_session]
  rfl

end

/-! ## One after the other -/

theorem run_all_nil {σ : Type} [Reporter σ] (s : σ) : (all []).run.run s = (true, s) := rfl

theorem run_all_cons {σ : Type} [Reporter σ] (i : Inspection) (is : List Inspection) (s : σ) :
    (all (i :: is)).run.run s =
      ((i.run.run s).1 && ((all is).run.run (i.run.run s).2).1,
        ((all is).run.run (i.run.run s).2).2) := rfl

/-- Inspections that run alike are the same. -/
theorem eq_of_run {i j : Inspection}
    (h : ∀ {σ : Type} [Reporter σ] (s : σ), i.run.run s = j.run.run s) : i = j := by
  obtain ⟨f⟩ := i
  obtain ⟨g⟩ := j
  congr 1
  funext σ _ s
  exact h s

/-- Inspections that are made together may as well be made one by one. -/
theorem all_append_all_cons (is js ks : List Inspection) :
    all (is ++ all js :: ks) = all (is ++ js ++ ks) := by
  refine eq_of_run fun s => ?_
  induction is generalizing s with
  | cons i is ih => simp only [List.cons_append, run_all_cons, ih]
  | nil =>
    rw [List.nil_append, List.nil_append]
    induction js generalizing s with
    | nil => rw [run_all_cons, run_all_nil, Bool.true_and]; rfl
    | cons j js ih =>
      rw [List.cons_append, run_all_cons, run_all_cons, run_all_cons, ← ih, run_all_cons,
        Bool.and_assoc]

theorem all_append_all (is js : List Inspection) : all (is ++ [all js]) = all (is ++ js) := by
  rw [all_append_all_cons, List.append_nil]

theorem each_eq_all {α : Type} {f : α → Inspection} {parts : α → List Inspection}
    (h : ∀ x, f x = all (parts x)) (xs : List α) : each xs f = all (xs.flatMap parts) := by
  unfold each
  induction xs with
  | nil => rfl
  | cons x xs ih =>
    rw [List.map_cons, List.flatMap_cons]
    calc all (f x :: xs.map f)
      _ = all [f x, all (xs.map f)] := (all_append_all [f x] _).symm
      _ = all [all (parts x), all (xs.flatMap parts)] := by rw [h, ih]
      _ = all (parts x ++ [all (xs.flatMap parts)]) := all_append_all_cons [] (parts x) [_]
      _ = all (parts x ++ xs.flatMap parts) := all_append_all (parts x) _

theorem tells_all_nil : (all []).Tells [] := fun _ _ _ => rfl

/-- The violations of an inspection come before those of the ones that follow,
which it does not change. -/
theorem tells_all_cons {i : Inspection} {is : List Inspection} {vs ws : List Violation}
    (h : i.Tells vs) (hs : (all is).Tells ws) : (all (i :: is)).Tells (vs ++ ws) := by
  intro σ _ s
  rw [run_all_cons, h, hs, List.foldl_append]
  congr 1
  cases vs with
  | nil => rfl
  | cons v vs => rfl

theorem tells_all {is : List Inspection} (h : ∀ i ∈ is, i.Tells i.reports) :
    (all is).Tells (is.flatMap reports) := by
  induction is with
  | nil => exact tells_all_nil
  | cons i is ih =>
    exact tells_all_cons (h i List.mem_cons_self) (ih fun j hj => h j (List.mem_cons_of_mem i hj))

theorem tells_each {α : Type} {xs : List α} {f : α → Inspection} {g : α → List Violation}
    (h : ∀ x, (f x).Tells (g x)) : (each xs f).Tells (xs.flatMap g) := by
  induction xs with
  | nil => exact tells_all_nil
  | cons x xs ih => exact tells_all_cons (h x) ih

/-! ## Single inspections -/

theorem tells_expect (b : Bool) (v : Violation) : (expect b v).Tells (if b then [] else [v]) := by
  intro σ _ s
  cases b with
  | true => rfl
  | false => rfl

section

variable {α : Type}

/-- Where every entry is expected to pass, those that fail are reported. -/
theorem tells_each_expect {passes fails : α → Bool} (h : ∀ x, passes x = !fails x) (xs : List α)
    (violation : α → Violation) :
    (each xs fun x => expect (passes x) (violation x)).Tells
      ((xs.filter fails).map violation) := by
  induction xs with
  | nil => exact tells_all_nil
  | cons x xs ih =>
    have hx := tells_all_cons (tells_expect (passes x) (violation x)) ih
    cases hf : fails x with
    | true => simpa [each, hf, h] using hx
    | false => simpa [each, hf, h] using hx

theorem tells_expectText {passes fails : String → Bool} (h : ∀ t, passes t = !fails t)
    (text : Option String) (violation : String → Violation) :
    (expectText text passes violation).Tells ((text.toList.filter fails).map violation) := by
  cases text with
  | none => exact tells_all_nil
  | some t =>
    have ht := tells_expect (passes t) (violation t)
    cases hf : fails t with
    | true => simpa [expectText, hf, h] using ht
    | false => simpa [expectText, hf, h] using ht

end

theorem run_forM_tell (vs : List Violation) {σ : Type} [Reporter σ] (s : σ) :
    (vs.forM tell).run s = ((), vs.foldl Reporter.report s) := by
  induction vs generalizing s with
  | nil => rfl
  | cons v vs ih => exact ih _

theorem tells_expectNothing (found : List Violation) : (expectNothing found).Tells found := by
  intro σ _ s
  calc (expectNothing found).run.run s
    _ = (found.isEmpty, ((found.forM tell).run s).2) := rfl
    _ = (found.isEmpty, found.foldl Reporter.report s) := by rw [run_forM_tell]

theorem tells_violatedIf {holds c : Bool} (h : holds = !c) (r : Rule) (args : List String) :
    (expect holds (r.violation args)).Tells (violatedIf c r args) := by
  subst h
  cases c with
  | true => exact tells_expect false (r.violation args)
  | false => exact tells_expect true (r.violation args)

theorem tells_noRepeat (r : Rule) (names : List (Option QName)) :
    (noRepeat r names).Tells (firstRepeat r names) := by
  unfold noRepeat firstRepeat
  cases firstDuplicate? names with
  | none => exact tells_all_nil
  | some q => exact tells_expect false (r.violation [q.text])

end Inspection

end Wsdl.Check
