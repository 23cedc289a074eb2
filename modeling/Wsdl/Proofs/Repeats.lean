-- Names and pairs that repeat. The checks for them find nothing exactly where
-- those that are there differ from each other, and then every name has a single
-- place in its list. To look for pairs by their first halves finds the same.
import Wsdl.Check.Component

namespace Wsdl.Check

section

variable {α : Type} [BEq α] [LawfulBEq α]

theorem duplicatesFrom_eq_nil_iff (seen xs : List α) :
    duplicatesFrom seen xs = [] ↔ xs.Nodup ∧ ∀ x ∈ xs, x ∉ seen := by
  induction xs generalizing seen with
  | nil => simp [duplicatesFrom]
  | cons x xs ih =>
    unfold duplicatesFrom
    split
    · rename_i hx
      simp only [List.contains_iff_mem] at hx
      refine ⟨fun h => absurd h (by simp), ?_⟩
      rintro ⟨_, hnew⟩
      exact absurd hx (hnew x List.mem_cons_self)
    · rename_i hx
      simp only [List.contains_iff_mem] at hx
      rw [ih, List.nodup_cons]
      constructor
      · rintro ⟨hnodup, hnew⟩
        refine ⟨⟨fun hmem => hnew x hmem List.mem_cons_self, hnodup⟩, ?_⟩
        intro y hy
        rcases List.mem_cons.1 hy with rfl | hy
        · exact hx
        · exact fun hseen => hnew y hy (List.mem_cons_of_mem x hseen)
      · rintro ⟨⟨hmem, hnodup⟩, hnew⟩
        refine ⟨hnodup, ?_⟩
        intro y hy hyx
        rcases List.mem_cons.1 hyx with rfl | hseen
        · exact hmem hy
        · exact hnew y (List.mem_cons_of_mem x hy) hseen

theorem duplicates_eq_nil_iff (xs : List (Option α)) :
    duplicates xs = [] ↔ (xs.filterMap id).Nodup := by
  simp [duplicates, duplicatesFrom_eq_nil_iff]

theorem firstDuplicate?_eq_none_iff (xs : List (Option α)) :
    firstDuplicate? xs = none ↔ (xs.filterMap id).Nodup := by
  rw [firstDuplicate?_eq_head?, List.head?_eq_none_iff, duplicates_eq_nil_iff]

end

/-! ## Repeats among pairs -/

section

variable {α β : Type} [DecidableEq α]

theorem Groups.seconds_cons (a x : α) (bs : List β) (g : Groups α β) :
    Groups.seconds ((a, bs) :: g) x = if x = a then bs else g.seconds x := by
  unfold seconds
  rw [List.lookup_cons]
  by_cases hx : x = a
  · simp [hx]
  · simp [hx, beq_eq_false_iff_ne.2 hx]

theorem Groups.mem_seconds_note {g : Groups α β} {a x : α} {b y : β} :
    y ∈ (g.note a b).seconds x ↔ (x, y) = (a, b) ∨ y ∈ g.seconds x := by
  induction g with
  | nil =>
    rw [note, seconds_cons]
    by_cases hx : x = a
    · simp [hx, seconds]
    · simp [hx, seconds]
  | cons group g ih =>
    obtain ⟨k, bs⟩ := group
    unfold note
    split
    · next hk =>
      obtain rfl := beq_iff_eq.1 hk
      rw [seconds_cons, seconds_cons]
      by_cases hx : x = a
      · simp [hx]
      · simp [hx]
    · next hk =>
      rw [seconds_cons, seconds_cons]
      by_cases hx : x = k
      · have ha : x ≠ a := fun ha => hk (by simp [← ha, hx])
        simp [if_pos hx, ha]
      · rw [if_neg hx, if_neg hx, ih]

variable [DecidableEq β]

/-- To go by first halves makes no difference. -/
theorem duplicatePairsFrom_eq {g : Groups α β} {seen : List (α × β)}
    (h : ∀ a b, b ∈ g.seconds a ↔ (a, b) ∈ seen) (ps : List (α × β)) :
    duplicatePairsFrom g ps = duplicatesFrom seen ps := by
  induction ps generalizing g seen with
  | nil => rfl
  | cons p ps ih =>
    obtain ⟨a, b⟩ := p
    have hseen : (g.seconds a).contains b = seen.contains (a, b) := by
      rw [Bool.eq_iff_iff, List.contains_iff_mem, List.contains_iff_mem, h]
    unfold duplicatePairsFrom duplicatesFrom
    rw [hseen]
    split
    · rw [ih h]
    · exact ih fun x y => by rw [Groups.mem_seconds_note, h, List.mem_cons]

/-- What is found by first halves are the pairs that repeat as pairs. -/
theorem duplicatePairs_eq (ps : List (Option α × Option β)) :
    duplicatePairs ps = duplicates (ps.map bothPresent) := by
  have hempty (a : α) (b : β) : b ∈ Groups.seconds ([] : Groups α β) a ↔ (a, b) ∈ [] := by
    simp [Groups.seconds]
  rw [duplicatePairs, duplicatePairsFrom_eq hempty, duplicates, List.filterMap_map]
  rfl

theorem duplicatePairs_eq_nil_iff (ps : List (Option α × Option β)) :
    duplicatePairs ps = [] ↔ (ps.filterMap bothPresent).Nodup := by
  rw [duplicatePairs_eq, duplicates_eq_nil_iff, List.filterMap_map]
  rfl

end

/-! ## Names -/

theorem firstRepeat_eq_nil_iff (r : Rule) (names : List (Option QName)) :
    firstRepeat r names = [] ↔ (names.filterMap id).Nodup := by
  simp [firstRepeat, firstDuplicate?_eq_none_iff]

theorem repeatedNames_eq_nil_iff (r : Rule) (owner : List String) (names : List (Option QName)) :
    repeatedNames r owner names = [] ↔ (names.filterMap id).Nodup := by
  simp [repeatedNames, duplicates_eq_nil_iff]

/-! ## Places -/

/-- Where the values that are there differ, each of them is at one place. -/
theorem place_eq_of_nodup {α β : Type} {f : α → Option β} {l : List α} {p p' : Nat} {a a' : α}
    {v : β} (hl : (l.filterMap f).Nodup) (hp : l[p]? = some a) (hp' : l[p']? = some a')
    (ha : f a = some v) (ha' : f a' = some v) : p = p' := by
  have hpair := List.pairwise_iff_getElem.1 (List.pairwise_filterMap.1 hl)
  obtain ⟨hlt, rfl⟩ := List.getElem?_eq_some_iff.1 hp
  obtain ⟨hlt', rfl⟩ := List.getElem?_eq_some_iff.1 hp'
  rcases Nat.lt_trichotomy p p' with h | h | h
  · exact absurd rfl (hpair p p' hlt hlt' h v ha v ha')
  · exact h
  · exact absurd rfl (hpair p' p hlt' hlt h v ha' v ha)

end Wsdl.Check
