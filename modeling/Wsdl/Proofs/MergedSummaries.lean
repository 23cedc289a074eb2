-- Summaries of parts of a log, put together again. Merging them gives the summary of
-- the whole, wherever the log is cut and in whichever way the parts are grouped, for
-- the ids stand in the order in which they first occur.
import Mathlib.Data.List.Basic
import Wsdl.Proofs.Summary

namespace Wsdl.Summary

/-! ## The order of ids -/

/-- The ids are those of a list, in the order in which they first occur there. -/
structure FirstOccurrences (xs ids : List String) : Prop where
  mem_iff : ∀ x, x ∈ ids ↔ x ∈ xs
  ordered : ids.Pairwise fun x y => xs.idxOf x < xs.idxOf y

section

variable {xs ids : List String}

/-- No id stands before itself. -/
theorem FirstOccurrences.nodup (h : FirstOccurrences xs ids) : ids.Nodup := by
  refine h.ordered.imp fun hlt heq => ?_
  subst heq
  exact Nat.lt_irrefl _ hlt

/-- What is behind a list does not move the places of what is in it. -/
theorem FirstOccurrences.ordered_append (h : FirstOccurrences xs ids) (ys : List String) :
    ids.Pairwise fun x y => (xs ++ ys).idxOf x < (xs ++ ys).idxOf y := by
  refine h.ordered.imp_of_mem fun {x y} hx hy hlt => ?_
  rwa [List.idxOf_append_of_mem ((h.mem_iff x).1 hx), List.idxOf_append_of_mem ((h.mem_iff y).1 hy)]

/-- An id that is new comes last, in the list and among the ids. -/
theorem FirstOccurrences.concat (h : FirstOccurrences xs ids) (x : String) :
    FirstOccurrences (xs ++ [x]) (addId ids x) where
  mem_iff y := by rw [mem_addId, h.mem_iff, List.mem_append, List.mem_singleton]
  ordered := by
    by_cases hx : x ∈ ids
    · rw [addId_of_mem hx]
      exact h.ordered_append [x]
    · rw [addId_of_not_mem hx]
      refine List.pairwise_append.2 ⟨h.ordered_append [x], List.pairwise_singleton _ _, ?_⟩
      intro y hy z hz
      obtain rfl := List.mem_singleton.1 hz
      have hplace := List.idxOf_lt_length_of_mem ((h.mem_iff y).1 hy)
      rw [List.idxOf_append_of_mem ((h.mem_iff y).1 hy),
        List.idxOf_append_of_notMem fun hz => hx ((h.mem_iff z).2 hz)]
      exact Nat.lt_add_right _ hplace

theorem FirstOccurrences.append (h : FirstOccurrences xs ids) (ys : List String) :
    FirstOccurrences (xs ++ ys) (ys.foldl addId ids) := by
  induction ys generalizing xs ids with
  | nil => rwa [List.append_nil]
  | cons y ys ih =>
    rw [List.append_cons]
    exact ih (h.concat y)

theorem firstOccurrences_ids (vs : Log) : FirstOccurrences vs.ids (Summary.of vs).ids := by
  have hnone : FirstOccurrences [] [] := ⟨by simp, .nil⟩
  rw [of_eq]
  exact hnone.append vs.ids

/-- Ids that are all new come behind the others. -/
theorem foldl_addId_of_nodup (h : (ids ++ xs).Nodup) : xs.foldl addId ids = ids ++ xs := by
  induction xs generalizing ids with
  | nil => exact (List.append_nil ids).symm
  | cons x xs ih =>
    have hx : x ∉ ids := fun hx => (List.nodup_append.1 h).2.2 x hx x List.mem_cons_self rfl
    rw [List.append_cons] at h
    rw [List.foldl_cons, addId_of_not_mem hx, ih h, ← List.append_cons]

end

/-! ## Merging -/

theorem merge_assoc (s t u : Summary) : (s.merge t).merge u = s.merge (t.merge u) := by
  simp only [merge, Nat.add_assoc, foldl_addId_foldl]

theorem merge_empty (s : Summary) : s.merge .empty = s := rfl

/-- To merge into nothing changes nothing where no id is there twice. -/
theorem empty_merge {s : Summary} (h : s.ids.Nodup) : Summary.empty.merge s = s := by
  have hids : s.ids.foldl addId [] = s.ids := foldl_addId_of_nodup h
  simp only [merge, empty, Nat.zero_add, hids]

/-- Each part in turn is merged into the summary of what came before. -/
theorem foldl_merge_of (vs : Log) (parts : List Log) :
    (parts.map Summary.of).foldl merge (Summary.of vs) = Summary.of (vs ++ parts.flatten) := by
  induction parts generalizing vs with
  | nil => rw [List.flatten_nil, List.append_nil]; rfl
  | cons part parts ih =>
    rw [List.map_cons, List.foldl_cons, merge_of, ih, List.flatten_cons, List.append_assoc]

/-! ## Counts -/

/-- Every violation is an error or a warning. -/
theorem errorCount_add_warningCount (vs : Log) : vs.errorCount + vs.warningCount = vs.length := by
  induction vs with
  | nil => rfl
  | cons v vs ih =>
    rw [Log.errorCount, Log.warningCount] at ih ⊢
    rw [List.countP_cons, List.countP_cons, List.length_cons]
    cases hv : v.severity with
    | warning =>
      simp
      omega
    | error =>
      simp
      omega

/-! ## The law -/

/-- The summary of a log is merged from those of its parts, wherever it is cut and
however the merging is grouped. It has each id once, in the order in which they first
occur, and counts the errors and the warnings of the log, which are all that is in it. -/
theorem a_summary_is_merged_from_those_of_the_parts (xs ys zs : Log) :
    Summary.of (xs ++ ys) = (Summary.of xs).merge (Summary.of ys) ∧
      (∀ parts : List Log,
        Summary.of parts.flatten = (parts.map Summary.of).foldl merge .empty) ∧
      ((Summary.of xs).merge (Summary.of ys)).merge (Summary.of zs)
        = (Summary.of xs).merge ((Summary.of ys).merge (Summary.of zs)) ∧
      (Summary.of xs).merge .empty = Summary.of xs ∧
      Summary.empty.merge (Summary.of xs) = Summary.of xs ∧
      (Summary.of xs).ids.Nodup ∧
      FirstOccurrences xs.ids (Summary.of xs).ids ∧
      (Summary.of xs).errors + (Summary.of xs).warnings = xs.length ∧
      (Summary.of xs).errors = xs.errorCount ∧
      (Summary.of xs).warnings = xs.warningCount := by
  have hids := firstOccurrences_ids xs
  refine ⟨(merge_of xs ys).symm, fun parts => (foldl_merge_of [] parts).symm,
    merge_assoc _ _ _, merge_empty _, empty_merge hids.nodup, hids.nodup, hids, ?_, ?_, ?_⟩
  · rw [of_eq]
    exact errorCount_add_warningCount xs
  · rw [of_eq]
  · rw [of_eq]

end Wsdl.Summary
