-- Counting by halving. Where the items that satisfy a test all stand in
-- front of the others, they can be counted without looking at each. The
-- main statement is that as many are counted as stand in front.

namespace Wsdl.Halving

variable {α : Type}

/-- The count, when it is not less than `lo` nor more than `hi`. -/
def countBetween (p : α → Bool) (xs : Array α) (lo hi : Nat) : Nat :=
  if _h : lo < hi then
    let mid := lo + (hi - lo) / 2
    if xs[mid]?.any p then countBetween p xs (mid + 1) hi else countBetween p xs lo mid
  else lo
  termination_by hi - lo
  decreasing_by all_goals omega

/-- How many items satisfy the test, if none of them stands behind one that
does not. -/
def count (p : α → Bool) (xs : Array α) : Nat := countBetween p xs 0 xs.size

/-! ## Facts -/

/-- The items that satisfy the test are the first `n` ones. -/
def IsFront (p : α → Bool) (xs : Array α) (n : Nat) : Prop :=
  n ≤ xs.size ∧ ∀ i : Nat, i < xs.size → xs[i]?.any p = decide (i < n)

theorem countBetween_eq {p : α → Bool} {xs : Array α} {n lo hi : Nat} (h : IsFront p xs n)
    (hlo : lo ≤ n) (hn : n ≤ hi) (hhi : hi ≤ xs.size) : countBetween p xs lo hi = n := by
  fun_induction countBetween p xs lo hi with
  | case1 lo hi hlt mid hp ih =>
    have hmid : mid < xs.size := by omega
    rw [h.2 mid hmid, decide_eq_true_eq] at hp
    exact ih (by omega) hn hhi
  | case2 lo hi hlt mid hp ih =>
    have hmid : mid < xs.size := by omega
    rw [h.2 mid hmid, decide_eq_true_eq] at hp
    exact ih hlo (by omega) (by omega)
  | case3 lo hi hlt => omega

theorem count_eq {p : α → Bool} {xs : Array α} {n : Nat} (h : IsFront p xs n) :
    count p xs = n := countBetween_eq h (Nat.zero_le n) h.1 (Nat.le_refl _)

/-- The items of a list that satisfy the test stand in front if each of them
is followed by no item that could bring one back. -/
theorem isFront_takeWhile {p : α → Bool} {l : List α}
    (h : l.Pairwise fun a b => p b = true → p a = true) :
    IsFront p l.toArray (l.takeWhile p).length := by
  refine ⟨by simpa using (List.takeWhile_sublist p).length_le, ?_⟩
  induction l with
  | nil => intro i hi; simp at hi
  | cons a l ih =>
    obtain ⟨ha, hl⟩ := List.pairwise_cons.1 h
    intro i hi
    by_cases hp : p a = true
    · cases i with
      | zero => simp [hp]
      | succ i =>
        have := ih hl i (by simpa using hi)
        simpa [List.takeWhile_cons, hp] using this
    · cases i with
      | zero => simp [hp]
      | succ i =>
        have hi' : i < l.length := by simpa using hi
        have : ¬ p l[i] = true := fun hb => hp (ha l[i] (List.getElem_mem hi') hb)
        simp [hp, hi', this]

end Wsdl.Halving
