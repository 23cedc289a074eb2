-- Lists that have one entry for each place where something is found. A list is
-- said to enumerate what is found if its entries come from different places, and
-- from all of them. That is kept by what lists are made with: filtering, joining,
-- and a list for each entry.
import Mathlib.Data.Prod.Basic
import Mathlib.Tactic.Choose

namespace Wsdl

/-- The entries of `ys` are what `P` finds, one for each place at which it finds
something. The places are in the order `r`. -/
def Enumerates {σ β : Type} (r : σ → σ → Prop) (P : σ → β → Prop) (ys : List β) : Prop :=
  ∃ es : List (σ × β), es.map Prod.snd = ys ∧ (es.map Prod.fst).Pairwise r ∧
    ∀ s y, (s, y) ∈ es ↔ P s y

variable {σ τ α β γ : Type} {r : σ → σ → Prop} {r' : τ → τ → Prop} {P Q : σ → β → Prop}
  {ys : List β}

/-! ## What is in the list -/

theorem Enumerates.mem_iff {y : β} (h : Enumerates r P ys) : y ∈ ys ↔ ∃ s, P s y := by
  obtain ⟨es, rfl, -, hP⟩ := h
  simp [hP]

theorem Enumerates.eq_nil_iff (h : Enumerates r P ys) : ys = [] ↔ ∀ s y, ¬ P s y := by
  simp only [List.eq_nil_iff_forall_not_mem, h.mem_iff, not_exists]
  exact forall_comm

/-- The first entry is what is found at the first place. -/
theorem Enumerates.of_head? {y : β} (h : Enumerates r P ys) (hy : ys.head? = some y) :
    ∃ s, P s y ∧ ∀ t z, P t z → t = s ∧ z = y ∨ r s t := by
  obtain ⟨es, rfl, hr, hP⟩ := h
  rcases es with _ | ⟨e, es⟩
  · simp at hy
  · simp only [List.map_cons, List.head?_cons, Option.some.injEq] at hy
    subst hy
    refine ⟨e.1, (hP e.1 e.2).1 List.mem_cons_self, ?_⟩
    intro t z htz
    rcases List.mem_cons.1 ((hP t z).2 htz) with rfl | hmem
    · exact Or.inl ⟨rfl, rfl⟩
    · rw [List.map_cons, List.pairwise_cons] at hr
      exact Or.inr (hr.1 t (List.mem_map_of_mem hmem))

theorem Enumerates.congr (h : Enumerates r P ys) (hPQ : ∀ s y, P s y ↔ Q s y) :
    Enumerates r Q ys := by
  obtain ⟨es, hys, hr, hP⟩ := h
  exact ⟨es, hys, hr, fun s y => (hP s y).trans (hPQ s y)⟩

/-! ## Lists from nothing -/

/-- A list enumerates its entries by where they are. -/
theorem enumerates_getElem? (xs : List α) :
    Enumerates (· < ·) (fun (n : Nat) x => xs[n]? = some x) xs := by
  refine ⟨xs.zipIdx.map Prod.swap, ?_, ?_, ?_⟩
  · simp [Function.comp_def]
  · simpa [Function.comp_def, List.range_eq_range'] using List.pairwise_lt_range
  · intro n x
    rw [List.mem_map]
    constructor
    · rintro ⟨_, hxn, h⟩
      obtain ⟨rfl, rfl⟩ := Prod.mk.inj h
      exact List.mem_zipIdx_iff_getElem?.1 hxn
    · intro hx
      exact ⟨(x, n), List.mem_zipIdx_iff_getElem?.2 hx, rfl⟩

theorem enumerates_nil : Enumerates r (fun (_ : σ) (_ : β) => False) [] :=
  ⟨[], rfl, .nil, by simp⟩

/-- What may be there is at a place of its own. -/
theorem enumerates_toList (s : σ) (y? : Option β) :
    Enumerates r (fun t y => t = s ∧ y? = some y) y?.toList := by
  cases y? with
  | none => exact ⟨[], rfl, .nil, by simp⟩
  | some y =>
    refine ⟨[(s, y)], rfl, List.pairwise_singleton r s, fun t z => ?_⟩
    simp only [List.mem_singleton, Prod.mk.injEq, Option.some.injEq, eq_comm]

/-- Where a place is known for each entry, a list enumerates what is found there
if it finds all of it. -/
theorem enumerates_of_place (place : β → σ) (hr : (ys.map place).Pairwise r)
    (hP : ∀ s y, P s y ↔ y ∈ ys ∧ place y = s) : Enumerates r P ys := by
  refine ⟨ys.map fun y => (place y, y), ?_, ?_, ?_⟩
  · simp [Function.comp_def]
  · simpa [Function.comp_def] using hr
  · intro s y
    rw [hP, List.mem_map]
    constructor
    · rintro ⟨y', hy', h⟩
      obtain ⟨rfl, rfl⟩ := Prod.mk.inj h
      exact ⟨hy', rfl⟩
    · rintro ⟨hy, rfl⟩
      exact ⟨y, hy, rfl⟩

/-! ## Lists from lists -/

/-- The entries that are kept stay at their places. -/
theorem Enumerates.filterMap (h : Enumerates r P ys) (g : β → Option γ) :
    Enumerates r (fun s z => ∃ y, P s y ∧ g y = some z) (ys.filterMap g) := by
  obtain ⟨es, rfl, hr, hP⟩ := h
  refine ⟨es.filterMap fun e => (g e.2).map (e.1, ·), ?_, ?_, ?_⟩
  · simp [List.map_filterMap, List.filterMap_map, Function.comp_def]
  · rw [List.pairwise_map] at hr ⊢
    refine List.pairwise_filterMap.2 (hr.imp fun {e e'} hee' a ha b hb => ?_)
    obtain ⟨_, _, rfl⟩ := Option.map_eq_some_iff.1 ha
    obtain ⟨_, _, rfl⟩ := Option.map_eq_some_iff.1 hb
    exact hee'
  · intro s z
    simp only [List.mem_filterMap, Prod.exists, Option.map_eq_some_iff, Prod.mk.injEq, ← hP]
    constructor
    · rintro ⟨_, y, hy, _, hz, rfl, rfl⟩
      exact ⟨y, hy, hz⟩
    · rintro ⟨y, hy, hz⟩
      exact ⟨s, y, hy, z, hz, rfl, rfl⟩

theorem Enumerates.filter (h : Enumerates r P ys) (p : β → Bool) :
    Enumerates r (fun s y => P s y ∧ p y = true) (ys.filter p) := by
  rw [← List.filterMap_eq_filter]
  refine (h.filterMap _).congr fun s y => ?_
  simp only [Option.guard_eq_some_iff]
  constructor
  · rintro ⟨_, hy, rfl, hp⟩
    exact ⟨hy, hp⟩
  · rintro ⟨hy, hp⟩
    exact ⟨y, hy, rfl, hp⟩

theorem Enumerates.map (h : Enumerates r P ys) (g : β → γ) :
    Enumerates r (fun s z => ∃ y, P s y ∧ g y = z) (ys.map g) := by
  rw [← List.filterMap_eq_map]
  refine (h.filterMap _).congr fun s z => ?_
  simp only [Function.comp_apply, Option.some.injEq]

/-- What is found first is before what is found later. -/
theorem Enumerates.append {zs : List β} (h : Enumerates r P ys) (h' : Enumerates r Q zs)
    (hr : ∀ s t y z, P s y → Q t z → r s t) :
    Enumerates r (fun s y => P s y ∨ Q s y) (ys ++ zs) := by
  obtain ⟨es, rfl, hes, hP⟩ := h
  obtain ⟨fs, rfl, hfs, hQ⟩ := h'
  refine ⟨es ++ fs, List.map_append, ?_, fun s y => by rw [List.mem_append, hP, hQ]⟩
  rw [List.map_append]
  refine List.pairwise_append.2 ⟨hes, hfs, fun s hs t ht => ?_⟩
  obtain ⟨⟨s, y⟩, hsy, rfl⟩ := List.mem_map.1 hs
  obtain ⟨⟨t, z⟩, htz, rfl⟩ := List.mem_map.1 ht
  exact hr s t y z ((hP s y).1 hsy) ((hQ t z).1 htz)

/-- With a list for each entry, the places are pairs: that of the entry, and that in
its list. -/
theorem Enumerates.flatMap {f : β → List γ} {R : β → τ → γ → Prop} (h : Enumerates r P ys)
    (hf : ∀ y, Enumerates r' (R y) (f y)) :
    Enumerates (Prod.Lex r r') (fun p z => ∃ y, P p.1 y ∧ R y p.2 z) (ys.flatMap f) := by
  obtain ⟨es, rfl, hr, hP⟩ := h
  choose fs hfs hr' hR using hf
  refine ⟨es.flatMap fun e => (fs e.2).map fun e' => ((e.1, e'.1), e'.2), ?_, ?_, ?_⟩
  · simp [List.map_flatMap, List.flatMap_map, Function.comp_def, hfs]
  · rw [List.pairwise_map] at hr ⊢
    refine List.pairwise_flatMap.2 ⟨fun e _ => ?_, hr.imp fun {e e'} hee' a ha b hb => ?_⟩
    · rw [List.pairwise_map]
      refine (List.pairwise_map.1 (hr' e.2)).imp fun {a b} hab => ?_
      exact Prod.Lex.right e.1 hab
    · obtain ⟨_, _, rfl⟩ := List.mem_map.1 ha
      obtain ⟨_, _, rfl⟩ := List.mem_map.1 hb
      exact Prod.Lex.left _ _ hee'
  · rintro ⟨s, t⟩ z
    simp only [List.mem_flatMap, List.mem_map, Prod.exists, Prod.mk.injEq, ← hP, ← hR]
    constructor
    · rintro ⟨_, y, hy, _, _, hz, ⟨rfl, rfl⟩, rfl⟩
      exact ⟨y, hy, hz⟩
    · rintro ⟨y, hy, hz⟩
      exact ⟨s, y, hy, t, z, hz, ⟨rfl, rfl⟩, rfl⟩

instance irrefl_ne : Std.Irrefl fun s t : σ => s ≠ t := ⟨fun _ h => h rfl⟩

/-- Places may be called otherwise, as long as different ones stay different. -/
theorem Enumerates.relabel [Std.Irrefl r] {f : σ → τ} (h : Enumerates r P ys)
    (hf : Function.Injective f) :
    Enumerates (· ≠ ·) (fun t y => ∃ s, f s = t ∧ P s y) ys := by
  obtain ⟨es, rfl, hr, hP⟩ := h
  refine ⟨es.map (Prod.map f id), ?_, ?_, ?_⟩
  · simp [Function.comp_def]
  · rw [List.pairwise_map] at hr
    rw [List.map_map, List.pairwise_map]
    refine hr.imp fun {e e'} hee' he => ?_
    have hsame : e.1 = e'.1 := hf he
    exact Std.Irrefl.irrefl e'.1 (hsame ▸ hee')
  · intro t y
    simp only [List.mem_map, Prod.exists, Prod.map_apply, id_eq, Prod.mk.injEq, ← hP]
    constructor
    · rintro ⟨s, _, hy, rfl, rfl⟩
      exact ⟨s, rfl, hy⟩
    · rintro ⟨s, rfl, hy⟩
      exact ⟨s, y, hy, rfl, rfl⟩

/-! ## Entries with those before them -/

/-- Each entry with the entries before it, which are preceded by some more. -/
def withEarlier (earlier : List α) : List α → List (List α × α)
  | [] => []
  | x :: xs => (earlier, x) :: withEarlier (earlier ++ [x]) xs

theorem getElem?_withEarlier (earlier xs : List α) (n : Nat) :
    (withEarlier earlier xs)[n]? = xs[n]?.map fun x => (earlier ++ xs.take n, x) := by
  induction xs generalizing earlier n with
  | nil => simp [withEarlier]
  | cons x xs ih =>
    cases n with
    | zero => simp [withEarlier]
    | succ n => simp [withEarlier, ih]

/-- What stands before a place stands at a place before it. -/
theorem mem_take_iff {xs : List α} {n : Nat} {y : α} :
    y ∈ xs.take n ↔ ∃ m, m < n ∧ xs[m]? = some y := by
  simp only [List.mem_iff_getElem?, List.getElem?_take, Option.ite_none_right_eq_some]

/-- What stands at a place is related to what stands at any later one. -/
theorem pairwise_iff_getElem? {R : α → α → Prop} {xs : List α} :
    xs.Pairwise R
      ↔ ∀ (m n : Nat) (x y : α), m < n → xs[m]? = some x → xs[n]? = some y → R x y := by
  rw [List.pairwise_iff_getElem]
  constructor
  · intro h m n x y hlt hx hy
    obtain ⟨hm, rfl⟩ := List.getElem?_eq_some_iff.1 hx
    obtain ⟨hn, rfl⟩ := List.getElem?_eq_some_iff.1 hy
    exact h m n hm hn hlt
  · intro h m n hm hn hlt
    exact h m n _ _ hlt (List.getElem?_eq_getElem hm) (List.getElem?_eq_getElem hn)

theorem enumerates_withEarlier (xs : List α) :
    Enumerates (· < ·) (fun (n : Nat) p => xs[n]? = some p.2 ∧ p.1 = xs.take n)
      (withEarlier [] xs) := by
  refine (enumerates_getElem? _).congr fun n p => ?_
  rw [getElem?_withEarlier, Option.map_eq_some_iff, List.nil_append]
  constructor
  · rintro ⟨x, hx, rfl⟩
    exact ⟨hx, rfl⟩
  · rintro ⟨hx, hp⟩
    exact ⟨p.2, hx, Prod.ext hp.symm rfl⟩

end Wsdl
