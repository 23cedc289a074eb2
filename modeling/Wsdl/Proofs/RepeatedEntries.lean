-- Entries that repeat an earlier one. Three searches look for them: one finds them
-- all, one stops at the first, and one goes by the first halves of pairs. What they
-- find is what stands where an equal entry stands before, and only that.
import Wsdl.Proofs.Enumeration
import Wsdl.Proofs.Repeats

namespace Wsdl.Check

section

variable {α : Type} [BEq α]

/-! ## How many entries are found -/

/-- Each entry is found, or it is kept as one that differs from those before it. -/
theorem length_duplicatesFrom_add (seen xs : List α) :
    (duplicatesFrom seen xs).length + (List.eraseDupsBy.loop (· == ·) xs seen).length
      = seen.length + xs.length := by
  induction xs generalizing seen with
  | nil => simp [duplicatesFrom, List.eraseDupsBy.loop]
  | cons x xs ih =>
    have hany : seen.any (x == ·) = seen.contains x := List.contains_eq_any_beq.symm
    unfold duplicatesFrom List.eraseDupsBy.loop
    rw [hany]
    cases hx : seen.contains x with
    | true =>
      have hrest := ih seen
      simp only [if_true, List.length_cons]
      omega
    | false =>
      have hrest := ih (x :: seen)
      simp only [Bool.false_eq_true, if_false, List.length_cons] at hrest ⊢
      omega

theorem length_duplicates_add (xs : List (Option α)) :
    (duplicates xs).length + (xs.filterMap id).eraseDups.length = (xs.filterMap id).length := by
  have h := length_duplicatesFrom_add [] (xs.filterMap id)
  rwa [List.length_nil, Nat.zero_add] at h

variable [PartialEquivBEq α]

/-- A value that was seen is found each time, and any other is not found the
first time. -/
theorem count_duplicatesFrom (seen xs : List α) (v : α) :
    (duplicatesFrom seen xs).count v
      = if seen.contains v then xs.count v else xs.count v - 1 := by
  induction xs generalizing seen with
  | nil => simp [duplicatesFrom]
  | cons x xs ih =>
    unfold duplicatesFrom
    by_cases hxv : (x == v) = true
    · rw [List.contains_congr hxv, List.count_cons, if_pos hxv]
      split
      · rw [List.count_cons, if_pos hxv, ih, if_pos ‹_›]
      · rw [ih, if_pos (by simp [BEq.symm hxv]), Nat.add_sub_cancel]
    · have hvx : (v == x) = false := by
        rw [Bool.eq_false_iff]
        exact fun h => hxv (BEq.symm h)
      rw [List.count_cons, if_neg hxv, Nat.add_zero]
      split
      · rw [List.count_cons, if_neg hxv, Nat.add_zero, ih]
      · rw [ih, List.contains_cons, hvx, Bool.false_or]

theorem count_duplicates (xs : List (Option α)) (v : α) :
    (duplicates xs).count v = xs.count (some v) - 1 := by
  have hpresent : (xs.filterMap id).count v = xs.count (some v) := by
    induction xs with
    | nil => rfl
    | cons x xs ih =>
      cases x with
      | none =>
        rw [List.filterMap_cons_none (rfl : id (none : Option α) = none), List.count_cons, ih]
        rfl
      | some x =>
        rw [List.filterMap_cons_some (rfl : id (some x) = some x), List.count_cons,
          List.count_cons, ih]
        rfl
  rw [duplicates, count_duplicatesFrom, hpresent]
  rfl

/-! ## Where they are -/

/-- What was seen is what stands before, without what was found of it. -/
theorem duplicatesFrom_eq_withEarlier {seen : List α} {earlier : List (Option α)}
    (h : ∀ x, seen.contains x = earlier.contains (some x)) (xs : List (Option α)) :
    duplicatesFrom seen (xs.filterMap id)
      = (withEarlier earlier xs).filterMap fun p => if p.1.contains p.2 then p.2 else none := by
  induction xs generalizing seen earlier with
  | nil => rfl
  | cons x xs ih =>
    cases x with
    | none =>
      have hnext (y : α) : seen.contains y = (earlier ++ [none]).contains (some y) := by
        rw [h]
        simp
      rw [List.filterMap_cons_none (rfl : id (none : Option α) = none), withEarlier,
        List.filterMap_cons, ite_self]
      exact ih hnext
    | some x =>
      rw [List.filterMap_cons_some (rfl : id (some x) = some x), withEarlier, List.filterMap_cons]
      unfold duplicatesFrom
      by_cases hx : seen.contains x = true
      · have hnext (y : α) : seen.contains y = (earlier ++ [some x]).contains (some y) := by
          by_cases hyx : (y == x) = true
          · rw [List.contains_congr hyx, hx]
            simp [hyx]
          · rw [h]
            simp [hyx]
        rw [if_pos hx, ih hnext, ← h, if_pos hx]
      · have hnext (y : α) : (x :: seen).contains y = (earlier ++ [some x]).contains (some y) := by
          rw [List.contains_cons, h]
          simp [Bool.or_comm]
        rw [if_neg hx, ih hnext, ← h, if_neg hx]

theorem contains_take_iff (xs : List (Option α)) (n : Nat) (x : α) :
    (xs.take n).contains (some x) = true
      ↔ ∃ m y, m < n ∧ xs[m]? = some (some y) ∧ (y == x) = true := by
  simp only [List.contains_eq_any_beq, List.any_eq_true, mem_take_iff]
  constructor
  · rintro ⟨y?, ⟨m, hlt, hm⟩, hy⟩
    cases y? with
    | none => simp at hy
    | some y =>
      have hxy : (x == y) = true := hy
      exact ⟨m, y, hlt, hm, BEq.symm hxy⟩
  · rintro ⟨m, y, hlt, hm, hyx⟩
    have hxy : (x == y) = true := BEq.symm hyx
    exact ⟨some y, ⟨m, hlt, hm⟩, hxy⟩

theorem enumerates_duplicates (xs : List (Option α)) :
    Enumerates (· < ·) (fun (n : Nat) x =>
        xs[n]? = some (some x) ∧ ∃ m y, m < n ∧ xs[m]? = some (some y) ∧ (y == x) = true)
      (duplicates xs) := by
  have hfound : duplicates xs
      = (withEarlier [] xs).filterMap fun p => if p.1.contains p.2 then p.2 else none :=
    duplicatesFrom_eq_withEarlier (fun _ => rfl) xs
  rw [hfound]
  refine ((enumerates_withEarlier xs).filterMap _).congr fun n x => ?_
  constructor
  · rintro ⟨⟨earlier, y⟩, ⟨hy, rfl⟩, hfound⟩
    split at hfound
    · next hbefore =>
      obtain rfl := hfound
      exact ⟨hy, (contains_take_iff xs n x).1 hbefore⟩
    · cases hfound
  · rintro ⟨hx, hbefore⟩
    exact ⟨(xs.take n, some x), ⟨hx, rfl⟩, if_pos ((contains_take_iff xs n x).2 hbefore)⟩

/-! ## Where none are found -/

theorem duplicates_eq_nil_iff_pairwise (xs : List (Option α)) :
    duplicates xs = [] ↔ (xs.filterMap id).Pairwise fun x y => (x == y) = false := by
  rw [(enumerates_duplicates xs).eq_nil_iff, List.pairwise_filterMap, pairwise_iff_getElem?]
  constructor
  · rintro hnone m n _ _ hlt hm hn x rfl y rfl
    rw [Bool.eq_false_iff]
    intro hxy
    exact hnone n y ⟨hn, m, x, hlt, hm, hxy⟩
  · rintro hdiffer n x ⟨hx, m, y, hlt, hy, hyx⟩
    exact absurd hyx (Bool.eq_false_iff.1 (hdiffer m n _ _ hlt hy hx y rfl x rfl))

end

/-! ## The law -/

/-- The entries that were found are those of a list that repeat an earlier one. -/
structure AreRepeats {α : Type} [BEq α] (xs : List (Option α)) (found : List α) : Prop where
  /-- In order, they are at the places where an equal entry stands before. -/
  places : Enumerates (· < ·) (fun (n : Nat) x =>
    xs[n]? = some (some x) ∧ ∃ m y, m < n ∧ xs[m]? = some (some y) ∧ (y == x) = true) found
  /-- A value is found once less than it occurs. -/
  counts : ∀ x, found.count x = xs.count (some x) - 1
  /-- There are as many as there are entries more than different ones. -/
  length : found.length + (xs.filterMap id).eraseDups.length = (xs.filterMap id).length
  /-- There are none where all entries differ. -/
  none : found = [] ↔ (xs.filterMap id).Pairwise fun x y => (x == y) = false

theorem areRepeats_duplicates {α : Type} [BEq α] [PartialEquivBEq α] (xs : List (Option α)) :
    AreRepeats xs (duplicates xs) where
  places := enumerates_duplicates xs
  counts := count_duplicates xs
  length := length_duplicates_add xs
  none := duplicates_eq_nil_iff_pairwise xs

/-- Whatever goes for equal, as long as it is symmetric and transitive, what is found
in a list are the entries that repeat an earlier one. To stop at the first finds the
first of them. Faults with their labels are found as pairs, those that have both
halves, though labels are looked for fault by fault. -/
theorem an_entry_is_found_where_an_equal_one_stands_before {α : Type} [BEq α]
    [PartialEquivBEq α] (xs : List (Option α)) :
    AreRepeats xs (duplicates xs) ∧ firstDuplicate? xs = (duplicates xs).head? ∧
      ∀ pairs : List (Option QName × Option String),
        duplicatePairs pairs = duplicates (pairs.map bothPresent) ∧
          AreRepeats (pairs.map bothPresent) (duplicatePairs pairs) := by
  refine ⟨areRepeats_duplicates xs, firstDuplicate?_eq_head? xs, ?_⟩
  intro pairs
  rw [duplicatePairs_eq]
  exact ⟨rfl, areRepeats_duplicates _⟩

def exampleFault (l : String) : QName := ⟨some "urn:shop", l⟩

def exampleFaults : List (Option QName) :=
  [some (exampleFault "Closed"), none, some (exampleFault "Lost"), some (exampleFault "Closed"),
   some (exampleFault "Closed"), none]

/-- The faults with labels. The last of them has its fault and its label from others. -/
def exampleLabels : List (Option QName × Option String) :=
  [(some (exampleFault "Closed"), some "In"), (some (exampleFault "Lost"), some "Out"),
   (some (exampleFault "Closed"), none), (some (exampleFault "Lost"), some "Out"),
   (some (exampleFault "Closed"), some "Out")]

theorem the_fault_that_occurs_three_times_is_found_twice :
    PartialEquivBEq QName ∧
      (duplicates exampleFaults).count (exampleFault "Closed") = 2 ∧
      (duplicates exampleFaults).length + 2 = 4 ∧
      firstDuplicate? exampleFaults = some (exampleFault "Closed") ∧
      (duplicatePairs exampleLabels).length + 3 = 4 ∧
      (exampleFault "Lost", "Out") ∈ duplicatePairs exampleLabels := by
  obtain ⟨hrepeats, hfirst, hpairs⟩ :=
    an_entry_is_found_where_an_equal_one_stands_before exampleFaults
  obtain ⟨_, hlabels⟩ := hpairs exampleLabels
  refine ⟨inferInstance, hrepeats.counts (exampleFault "Closed"), hrepeats.length, ?_,
    hlabels.length, ?_⟩
  · rw [hfirst]
    rfl
  · exact hlabels.places.mem_iff.2 ⟨3, rfl, 1, _, by decide, rfl, by decide⟩

end Wsdl.Check
