-- What a summary says about the violations that it counts: how many of them
-- are errors and how many are warnings, and their ids in the order in which
-- they first occur. The summaries of two lists merge into that of both lists,
-- one after the other.
import Wsdl.Violation.Log

namespace Wsdl.Summary

/-! ## Ids -/

section

variable {ids xs : List String} {id : String}

theorem addId_of_mem (h : id ∈ ids) : addId ids id = ids := by
  simp [addId, h]

theorem addId_of_not_mem (h : id ∉ ids) : addId ids id = ids ++ [id] := by
  simp [addId, h]

theorem mem_addId {x : String} : x ∈ addId ids id ↔ x ∈ ids ∨ x = id := by
  by_cases h : id ∈ ids
  · rw [addId_of_mem h]
    constructor
    · exact Or.inl
    · rintro (hx | rfl)
      · exact hx
      · exact h
  · rw [addId_of_not_mem h, List.mem_append, List.mem_singleton]

theorem mem_foldl_addId {x : String} : x ∈ xs.foldl addId ids ↔ x ∈ ids ∨ x ∈ xs := by
  induction xs generalizing ids with
  | nil => simp
  | cons y xs ih => rw [List.foldl_cons, ih, mem_addId, List.mem_cons, or_assoc]

/-- Ids that were put together before are added as they would have been one by
one. -/
theorem foldl_addId_foldl (xs ys ids : List String) :
    (xs.foldl addId ys).foldl addId ids = xs.foldl addId (ys.foldl addId ids) := by
  induction xs generalizing ys with
  | nil => rfl
  | cons x xs ih =>
    rw [List.foldl_cons, List.foldl_cons, ih]
    congr 1
    by_cases hx : x ∈ ys
    · rw [addId_of_mem hx, addId_of_mem (mem_foldl_addId.2 (Or.inr hx))]
    · rw [addId_of_not_mem hx, List.foldl_append]
      rfl

/-- What is left out makes no difference if its ids are there already. -/
theorem foldl_addId_filter {p : Violation → Bool} {vs : List Violation}
    (h : ∀ v ∈ vs, p v = false → v.id ∈ ids) :
    (Log.ids (vs.filter p)).foldl addId ids = (Log.ids vs).foldl addId ids := by
  induction vs generalizing ids with
  | nil => rfl
  | cons v vs ih =>
    have hvs : ∀ u ∈ vs, p u = false → u.id ∈ addId ids v.id := fun u hu hp =>
      mem_addId.2 (Or.inl (h u (List.mem_cons_of_mem v hu) hp))
    cases hp : p v with
    | true =>
      rw [List.filter_cons_of_pos hp]
      exact ih hvs
    | false =>
      have hv : v.id ∈ ids := h v List.mem_cons_self hp
      rw [List.filter_cons_of_neg (by simp [hp])]
      rw [addId_of_mem hv] at hvs
      rw [ih hvs]
      exact congrArg (List.foldl addId · _) (addId_of_mem hv).symm

end

/-! ## Counts -/

theorem foldl_record (vs : List Violation) (s : Summary) :
    vs.foldl (fun s v => s.record v.id v.severity) s
      = ⟨s.errors + Log.errorCount vs, s.warnings + Log.warningCount vs,
          (Log.ids vs).foldl addId s.ids⟩ := by
  unfold Log.errorCount Log.warningCount Log.ids
  induction vs generalizing s with
  | nil => simp
  | cons v vs ih =>
    rw [List.foldl_cons, ih, List.countP_cons, List.countP_cons, List.map_cons, List.foldl_cons]
    cases hv : v.severity with
    | warning =>
      simp [record]
      omega
    | error =>
      simp [record]
      omega

/-- A summary counts the errors and the warnings of the list, and has its
ids. -/
theorem of_eq (vs : List Violation) :
    Summary.of vs
      = ⟨Log.errorCount vs, Log.warningCount vs, (Log.ids vs).foldl addId []⟩ := by
  rw [Summary.of, foldl_record]
  simp [empty]

theorem isValid_of_iff (vs : List Violation) :
    (Summary.of vs).isValid = true ↔ ∀ v ∈ vs, v.severity ≠ .error := by
  rw [isValid, of_eq, Log.errorCount, beq_iff_eq, List.countP_eq_zero]
  simp

theorem isValid_of_append (vs ws : List Violation) :
    (Summary.of (vs ++ ws)).isValid = ((Summary.of vs).isValid && (Summary.of ws).isValid) := by
  rw [Bool.eq_iff_iff, Bool.and_eq_true, isValid_of_iff, isValid_of_iff, isValid_of_iff]
  exact List.forall_mem_append

theorem merge_of (vs ws : List Violation) :
    (Summary.of vs).merge (Summary.of ws) = Summary.of (vs ++ ws) := by
  simp only [of_eq, merge, Log.errorCount, Log.warningCount, Log.ids, List.countP_append,
    List.map_append, List.foldl_append, foldl_addId_foldl]
  rfl

end Wsdl.Summary
