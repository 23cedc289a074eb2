-- The tree of a document, told from its tags. Elements are numbered in the order
-- of their tags, which is the order of the tree from the top. Whatever is inside
-- of the innermost open element belongs to it: the elements that start there,
-- in order, and the character data.
import Wsdl.Proofs.Nesting

namespace Wsdl.Xml

/-! ## The elements of a tree -/

mutual

/-- The element, which has the number `n`, and all below it in document order.
With each come the numbers of the elements that it is in, innermost first. -/
def Element.listed (above : List Nat) (n : Nat) : Element → List (List Nat × Element)
  | ⟨name, attributes, text, children, scope, position⟩ =>
    (above, ⟨name, attributes, text, children, scope, position⟩)
      :: Element.listedAll (n :: above) (n + 1) children

def Element.listedAll (above : List Nat) (n : Nat) : List Element → List (List Nat × Element)
  | [] => []
  | e :: es =>
    e.listed above n ++ Element.listedAll above (n + (e.listed above n).length) es

end

namespace Element

theorem listed_eq (above : List Nat) (n : Nat) (e : Element) :
    e.listed above n = (above, e) :: listedAll (n :: above) (n + 1) e.children := by
  cases e
  rw [listed]

theorem listedAll_cons (above : List Nat) (n : Nat) (e : Element) (es : List Element) :
    listedAll above n (e :: es) = (above, e) :: (listedAll (n :: above) (n + 1) e.children
      ++ listedAll above (n + (1 + (listedAll (n :: above) (n + 1) e.children).length)) es) := by
  rw [listedAll, listed_eq, List.cons_append, List.length_cons, Nat.add_comm 1]

theorem listedAll_singleton (above : List Nat) (n : Nat) (e : Element) :
    listedAll above n [e] = e.listed above n := by
  rw [listedAll, listedAll, List.append_nil]

mutual

/-- The elements are those of the preorder, each as deep as the elements that
it is in are many. -/
theorem map_length_listed (above : List Nat) (n : Nat) :
    ∀ e : Element, (e.listed above n).map (fun x => (x.1.length, x.2)) = e.preorder above.length
  | ⟨_, _, _, children, _, _⟩ => by
    rw [listed, preorder, List.map_cons]
    exact congrArg _ (map_length_listedAll (n :: above) (n + 1) children)

theorem map_length_listedAll (above : List Nat) (n : Nat) :
    ∀ es : List Element,
      (listedAll above n es).map (fun x => (x.1.length, x.2)) = preorderAll above.length es
  | [] => by rw [listedAll, preorderAll, List.map_nil]
  | e :: es => by
    rw [listedAll, preorderAll, List.map_append, map_length_listed above n e,
      map_length_listedAll above _ es]

end

end Element

/-! ## Numbered lists -/

section

variable {α : Type} {P Q : Nat → α → Prop} {n : Nat} {x : α} {l l' : List α}

/-- Each entry is as it has to be under its number, the first one having the
number `n`. -/
def Numbered (P : Nat → α → Prop) (n : Nat) (l : List α) : Prop :=
  ∀ j x, l[j]? = some x → P (n + j) x

theorem numbered_nil : Numbered P n [] := by
  intro j x h
  simp at h

theorem numbered_cons : Numbered P n (x :: l) ↔ P n x ∧ Numbered P (n + 1) l := by
  constructor
  · intro h
    refine ⟨h 0 x rfl, fun j y hj => ?_⟩
    have := h (j + 1) y hj
    rwa [Nat.add_comm j, ← Nat.add_assoc] at this
  · rintro ⟨hx, hl⟩ j y hj
    cases j with
    | zero => exact Option.some.inj hj ▸ hx
    | succ j =>
      rw [Nat.add_comm j, ← Nat.add_assoc]
      exact hl j y hj

theorem numbered_append :
    Numbered P n (l ++ l') ↔ Numbered P n l ∧ Numbered P (n + l.length) l' := by
  induction l generalizing n with
  | nil => simp [numbered_nil]
  | cons x l ih =>
    rw [List.cons_append, numbered_cons, numbered_cons, ih, and_assoc, List.length_cons,
      Nat.add_assoc, Nat.add_comm 1]

theorem Numbered.imp (h : Numbered P n l)
    (hPQ : ∀ i x, n ≤ i → i < n + l.length → P i x → Q i x) : Numbered Q n l := by
  intro j x hj
  have hlt : j < l.length := (List.getElem?_eq_some_iff.1 hj).1
  exact hPQ _ x (by omega) (by omega) (h j x hj)

end

/-- The numbers are those of elements before the one with the number `n`. -/
def AllBelow (n : Nat) (above : List Nat) : Prop := ∀ k ∈ above, k < n

section

variable {n i : Nat} {above : List Nat}

theorem AllBelow.cons (h : AllBelow n above) : AllBelow (n + 1) (n :: above) := by
  intro k hk
  rcases List.mem_cons.1 hk with rfl | hk
  · exact Nat.lt_succ_self _
  · exact Nat.lt_succ_of_lt (h k hk)

theorem AllBelow.add (h : AllBelow n above) (count : Nat) : AllBelow (n + count) above :=
  fun k hk => Nat.lt_of_lt_of_le (h k hk) (Nat.le_add_right _ _)

theorem AllBelow.head?_ne (h : AllBelow n above) (hi : n ≤ i) : above.head? ≠ some i := by
  intro hhead
  have := h i (List.mem_of_head? hhead)
  omega

end

/-! ## Children -/

/-- The listed elements that are directly in the element with the number `i`,
or in none. -/
def childrenOf (i : Option Nat) (l : List (List Nat × Element)) : List Element :=
  (l.filter (·.1.head? = i)).map (·.2)

theorem childrenOf_cons (i : Option Nat) (x : List Nat × Element) (l : List (List Nat × Element)) :
    childrenOf i (x :: l) = (if x.1.head? = i then [x.2] else []) ++ childrenOf i l := by
  unfold childrenOf
  by_cases h : x.1.head? = i
  · simp [h]
  · simp [h]

theorem childrenOf_append (i : Option Nat) (l l' : List (List Nat × Element)) :
    childrenOf i (l ++ l') = childrenOf i l ++ childrenOf i l' := by
  simp [childrenOf]

theorem length_childrenOf_none (l : List (List Nat × Element)) :
    (childrenOf none l).length = (l.map (·.1)).count [] := by
  induction l with
  | nil => rfl
  | cons x l ih =>
    rw [childrenOf_cons, List.length_append, ih, List.map_cons, List.count_cons]
    cases hx : x.1 with
    | nil => simp [Nat.add_comm]
    | cons k ks => simp

namespace Element

mutual

/-- An element of elsewhere has of the listed ones at most the one that is
listed first. -/
theorem childrenOf_listed {i : Option Nat} (above : List Nat) (n : Nat) : ∀ e : Element,
    (∀ k ∈ i, k < n ∨ n + (e.listed above n).length ≤ k) →
      childrenOf i (e.listed above n) = if above.head? = i then [e] else []
  | ⟨name, attributes, text, children, scope, position⟩ => by
    intro hi
    rw [listed, List.length_cons] at hi
    have hne : some n ≠ i := fun h => by
      have := hi n h.symm
      omega
    have hbelow : childrenOf i (listedAll (n :: above) (n + 1) children) = [] := by
      rw [childrenOf_listedAll (n :: above) (n + 1) children fun k hk => by
        have := hi k hk
        omega]
      exact if_neg hne
    rw [listed, childrenOf_cons, hbelow, List.append_nil]

theorem childrenOf_listedAll {i : Option Nat} (above : List Nat) (n : Nat) : ∀ es : List Element,
    (∀ k ∈ i, k < n ∨ n + (listedAll above n es).length ≤ k) →
      childrenOf i (listedAll above n es) = if above.head? = i then es else []
  | [] => by
    intro _
    rw [listedAll, ite_self]
    rfl
  | e :: es => by
    intro hi
    rw [listedAll, List.length_append] at hi
    have hfirst := childrenOf_listed (i := i) above n e fun k hk => by
      have := hi k hk
      omega
    have hrest := childrenOf_listedAll (i := i) above (n + (e.listed above n).length) es
      fun k hk => by
        have := hi k hk
        omega
    rw [listedAll, childrenOf_append, hfirst, hrest]
    by_cases h : above.head? = i
    · simp [h]
    · simp [h]

end

mutual

/-- The children of each element are the listed elements that are directly in
it, in the order of the listing. -/
theorem childrenOf_number {above : List Nat} {n : Nat} (habove : AllBelow n above) :
    ∀ e : Element, Numbered (fun i x => x.2.children = childrenOf (some i) (e.listed above n)) n
      (e.listed above n)
  | ⟨name, attributes, text, children, scope, position⟩ => by
    have hown : childrenOf (some n) (listedAll (n :: above) (n + 1) children) = children := by
      rw [childrenOf_listedAll]
      · exact if_pos rfl
      · simp
    rw [listed, numbered_cons]
    refine ⟨?_, (childrenOf_numberAll habove.cons children).imp fun i x hle _ hx => ?_⟩
    · rw [childrenOf_cons, if_neg (habove.head?_ne (Nat.le_refl n)), hown]
      rfl
    · rw [childrenOf_cons, if_neg (habove.head?_ne (Nat.le_of_succ_le hle)), hx]
      rfl

theorem childrenOf_numberAll {above : List Nat} {n : Nat} (habove : AllBelow n above) :
    ∀ es : List Element, Numbered (fun i x => x.2.children
      = childrenOf (some i) (listedAll above n es)) n (listedAll above n es)
  | [] => by
    rw [listedAll]
    exact numbered_nil
  | e :: es => by
    rw [listedAll, numbered_append]
    refine ⟨(childrenOf_number habove e).imp fun i x hle hlt hx => ?_,
      (childrenOf_numberAll (habove.add _) es).imp fun i x hle _ hx => ?_⟩
    · have hrest : childrenOf (some i) (listedAll above (n + (e.listed above n).length) es)
          = [] := by
        rw [childrenOf_listedAll, if_neg (habove.head?_ne hle)]
        rintro k ⟨⟩
        exact .inl hlt
      rw [childrenOf_append, hrest, List.append_nil, hx]
    · have hfirst : childrenOf (some i) (e.listed above n) = [] := by
        rw [childrenOf_listed, if_neg (habove.head?_ne (by omega))]
        rintro k ⟨⟩
        exact .inr hle
      rw [childrenOf_append, hfirst, List.nil_append, hx]

end

end Element

/-! ## Where the events stand -/

/-- The elements that are open at an event, by their numbers, and the number of
the next element. -/
structure Place where
  /-- Innermost first. -/
  opened : List Nat
  next : Nat

namespace Place

def start : Place := ⟨[], 0⟩

/-- The place inside of an element that starts here. -/
def inside (p : Place) : Place := ⟨p.next :: p.opened, p.next + 1⟩

/-- The place outside of the innermost open element, if there is one. -/
def outside (p : Place) : Place := ⟨p.opened.tail, p.next⟩

/-- The place behind a number of elements. -/
def skip (p : Place) (count : Nat) : Place := ⟨p.opened, p.next + count⟩

/-- The place behind an event. -/
def after (p : Place) : Event → Place
  | .start _ => p.inside
  | .empty _ => p.skip 1
  | .close => p.outside
  | _ => p

def afterAll (p : Place) (ms : List Marked) : Place := ms.foldl (fun p m => p.after m.event) p

/-- The events, each with its place. -/
def situate (p : Place) : List Marked → List (Place × Marked)
  | [] => []
  | m :: ms => (p, m) :: situate (p.after m.event) ms

/-- For each tag that starts an element the elements that are open there. -/
def around (p : Place) (ms : List Marked) : List (List Nat) :=
  (p.situate ms).filterMap fun x => x.2.event.tag?.map fun _ => x.1.opened

/-- The character data for which the element with the number `i` is the
innermost open one. -/
def dataIn (p : Place) (i : Nat) (ms : List Marked) : List (List Char) :=
  (p.situate ms).filterMap fun x =>
    if x.1.opened.head? = some i then x.2.event.data? else none

variable (p : Place) (m : Marked) (ms ns : List Marked) (i : Nat)

@[simp] theorem opened_skip : (p.skip i).opened = p.opened := rfl

@[simp] theorem next_skip : (p.skip i).next = p.next + i := rfl

@[simp] theorem head?_opened_inside : p.inside.opened.head? = some p.next := rfl

variable {p} in
theorem length_opened_inside {depth : Nat} (hp : p.opened.length = depth) :
    p.inside.opened.length = depth + 1 := by
  rw [inside, List.length_cons, hp]

@[simp] theorem next_inside : p.inside.next = p.next + 1 := rfl

theorem skip_skip (a b : Nat) : (p.skip a).skip b = p.skip (a + b) := by
  simp [skip, Nat.add_assoc]

theorem outside_skip_inside (count : Nat) : (p.inside.skip count).outside = p.skip (1 + count) := by
  simp [inside, outside, skip, Nat.add_assoc]

variable {p} in
theorem outside_eq_self (h : p.opened = []) : p.outside = p := by
  rw [outside, h, List.tail_nil, ← h]

theorem situate_append : p.situate (ms ++ ns) = p.situate ms ++ (p.afterAll ms).situate ns := by
  induction ms generalizing p with
  | nil => rfl
  | cons m ms ih => simp [situate, afterAll, ih]

theorem afterAll_cons : p.afterAll (m :: ms) = (p.after m.event).afterAll ms := rfl

theorem afterAll_append : p.afterAll (ms ++ ns) = (p.afterAll ms).afterAll ns := by
  simp [afterAll]

variable {m} in
theorem after_eq_self (htag : m.event.tag? = none) (hclose : m.event ≠ .close) :
    p.after m.event = p := by
  cases h : m.event with
  | start tag => simp [h, Event.tag?] at htag
  | empty tag => simp [h, Event.tag?] at htag
  | close => exact absurd h hclose
  | _ => rfl

theorem around_append : p.around (ms ++ ns) = p.around ms ++ (p.afterAll ms).around ns := by
  simp [around, situate_append]

theorem dataIn_append :
    p.dataIn i (ms ++ ns) = p.dataIn i ms ++ (p.afterAll ms).dataIn i ns := by
  simp [dataIn, situate_append]

theorem around_cons : p.around (m :: ms)
    = (m.event.tag?.map fun _ => p.opened).toList ++ (p.after m.event).around ms := by
  rw [around, situate]
  cases h : m.event.tag? with
  | none => simp [h, around]
  | some tag => simp [h, around]

theorem dataIn_cons : p.dataIn i (m :: ms)
    = (if p.opened.head? = some i then m.event.data? else none).toList
      ++ (p.after m.event).dataIn i ms := by
  rw [dataIn, situate, List.filterMap_cons]
  split
  · next h => simp [h, dataIn]
  · next d h => simp [h, dataIn]

end Place

/-! ## The elements of a content -/

/-- An element has what a tag says, with some bindings around it, and the position
that is looked up for the tag. -/
def Element.IsOpenedBy (limits : Limits) (positionOf : Nat → Position) (t : Nat × Tag)
    (e : Element) : Prop :=
  e.position = positionOf t.1 ∧ ∃ outer, Opening.ofTag limits outer t.2 = .ok e.opening

theorem tagsOf_cons (m : Marked) (ms : List Marked) :
    tagsOf (m :: ms) = (m.event.tag?.map (m.mark, ·)).toList ++ tagsOf ms := by
  rw [tagsOf, List.filterMap_cons]
  cases m.event.tag? <;> rfl

theorem tagsOf_append (ms ns : List Marked) : tagsOf (ms ++ ns) = tagsOf ms ++ tagsOf ns :=
  List.filterMap_append

theorem tagsOf_branch (mark mark' : Nat) (tag : Tag) (inner ms : List Marked) :
    tagsOf (⟨mark, .start tag⟩ :: inner ++ ⟨mark', .close⟩ :: ms)
      = (mark, tag) :: (tagsOf inner ++ tagsOf ms) := by
  rw [List.cons_append, tagsOf_cons, tagsOf_append, tagsOf_cons]
  rfl

theorem length_tagsOf_branch (mark mark' : Nat) (tag : Tag) (inner ms : List Marked) :
    (tagsOf (⟨mark, .start tag⟩ :: inner ++ ⟨mark', .close⟩ :: ms)).length
      = 1 + (tagsOf inner).length + (tagsOf ms).length := by
  rw [tagsOf_branch, List.length_cons, List.length_append]
  omega

section

variable {limits : Limits} {positionOf : Nat → Position} {outer : Scope} {depth : Nat}
  {ms : List Marked} {es : List Element} {own : List (List Char)}

/-- The elements are those that the tags open, in the same order. -/
theorem Content.opened (h : Content limits positionOf outer depth ms es own) (above : List Nat)
    (n : Nat) : List.Forall₂ (fun t x => x.2.IsOpenedBy limits positionOf t) (tagsOf ms)
      (Element.listedAll above n es) := by
  induction h generalizing above n with
  | nothing => rw [Element.listedAll]; exact .nil
  | leaf hopens hchildren _ _ ih =>
    rw [Element.listedAll, Element.listed_eq, hchildren, Element.listedAll, tagsOf_cons]
    exact .cons ⟨hopens.position, _, hopens.opening⟩ (ih _ _)
  | branch hopens _ _ _ hinner ih =>
    rw [tagsOf_branch, Element.listedAll, Element.listed_eq, List.cons_append]
    exact .cons ⟨hopens.position, _, hopens.opening⟩ (List.rel_append (hinner _ _) (ih _ _))
  | other htag _ _ ih =>
    rw [tagsOf_cons, htag]
    exact ih _ _
  | stray _ ih =>
    rw [tagsOf_cons]
    exact ih _ _

theorem Content.length_listedAll (h : Content limits positionOf outer depth ms es own)
    (above : List Nat) (n : Nat) :
    (Element.listedAll above n es).length = (tagsOf ms).length :=
  (h.opened above n).length_eq.symm

/-- Behind a content the same elements are open as before it. -/
theorem Content.afterAll (h : Content limits positionOf outer depth ms es own) (p : Place)
    (hp : p.opened.length = depth) : p.afterAll ms = p.skip (tagsOf ms).length := by
  induction h generalizing p with
  | nothing => rfl
  | @leaf outer depth mark tag e ms es own _ _ _ _ ih =>
    rw [p.afterAll_cons, Place.after, ih (p.skip 1) hp, p.skip_skip, Nat.add_comm]
    rfl
  | @branch outer depth mark mark' tag e inner ms es data own _ _ _ _ hinner ih =>
    have hinside : p.inside.afterAll inner = p.inside.skip (tagsOf inner).length :=
      hinner p.inside (Place.length_opened_inside hp)
    rw [p.afterAll_append, p.afterAll_cons, Place.after, hinside, Place.afterAll_cons, Place.after,
      p.outside_skip_inside, ih (p.skip _) hp, p.skip_skip, length_tagsOf_branch]
  | other htag hclose _ ih =>
    rw [p.afterAll_cons, p.after_eq_self htag hclose, ih p hp, tagsOf_cons, htag]
    rfl
  | stray _ ih =>
    rw [p.afterAll_cons, Place.after, Place.outside_eq_self (List.length_eq_zero_iff.1 hp), ih p hp]
    rfl

/-- The place behind an element that starts here. -/
theorem Content.afterAll_inside (h : Content limits positionOf outer (depth + 1) ms es own)
    (p : Place) (hp : p.opened.length = depth) :
    (p.inside.afterAll ms).after .close = p.skip (1 + (tagsOf ms).length) := by
  rw [h.afterAll p.inside (Place.length_opened_inside hp), Place.after, p.outside_skip_inside]

/-- The elements that an element is in are those that are open at its tag. -/
theorem Content.around (h : Content limits positionOf outer depth ms es own) (p : Place)
    (hp : p.opened.length = depth) :
    p.around ms = (Element.listedAll p.opened p.next es).map (·.1) := by
  induction h generalizing p with
  | nothing => rw [Element.listedAll]; rfl
  | leaf _ hchildren _ _ ih =>
    rw [p.around_cons, Element.listedAll_cons, hchildren, Element.listedAll, List.nil_append,
      Place.after, ih (p.skip 1) hp]
    rfl
  | @branch outer depth mark mark' tag e inner ms es data own _ hcontent _ _ hinner ih =>
    have hinside := Place.length_opened_inside hp
    have hclosed := hcontent.afterAll_inside p hp
    rw [p.around_append, p.around_cons, p.afterAll_cons, Place.around_cons, Place.after, hclosed,
      hinner p.inside hinside, ih (p.skip _) hp, Element.listedAll_cons,
      hcontent.length_listedAll, List.map_cons, List.map_append]
    rfl
  | other htag hclose _ ih =>
    rw [p.around_cons, htag, p.after_eq_self htag hclose, ih p hp]
    rfl
  | stray _ ih =>
    rw [p.around_cons, Place.after, Place.outside_eq_self (List.length_eq_zero_iff.1 hp), ih p hp]
    rfl

/-- Whether the element with the number `i` is one of those whose tags are read
from a place on. -/
def Place.Counts (p : Place) (ms : List Marked) (i : Nat) : Prop :=
  p.next ≤ i ∧ i < p.next + (tagsOf ms).length

theorem Place.not_counts_of_lt {p : Place} {i : Nat} (h : i < p.next) : ¬ p.Counts ms i :=
  fun hcounts => Nat.not_le.2 h hcounts.1

theorem Place.not_counts_of_le {p : Place} {i : Nat} (h : p.next + (tagsOf ms).length ≤ i) :
    ¬ p.Counts ms i := fun hcounts => Nat.not_lt.2 h hcounts.2

theorem Content.dataIn_branch (h : Content limits positionOf outer (depth + 1) ms es own)
    (p : Place) (hp : p.opened.length = depth) (i mark mark' : Nat) (tag : Tag)
    (ns : List Marked) : p.dataIn i (⟨mark, .start tag⟩ :: ms ++ ⟨mark', .close⟩ :: ns)
      = p.inside.dataIn i ms ++ (p.skip (1 + (tagsOf ms).length)).dataIn i ns := by
  rw [p.dataIn_append, p.dataIn_cons, p.afterAll_cons, Place.dataIn_cons, Place.after,
    h.afterAll_inside p hp]
  simp [Event.data?]

/-- An element of elsewhere has the character data between the elements if it
is the innermost open one, and else none of the content. -/
theorem Content.dataIn_of_not_counts (h : Content limits positionOf outer depth ms es own)
    (p : Place) (hp : p.opened.length = depth) {i : Nat} (hi : ¬ p.Counts ms i) :
    p.dataIn i ms = if p.opened.head? = some i then own else [] := by
  induction h generalizing p with
  | nothing => simp [Place.dataIn, Place.situate]
  | @leaf outer depth mark tag e ms es own _ _ _ _ ih =>
    have hlength : (tagsOf (⟨mark, .empty tag⟩ :: ms)).length = (tagsOf ms).length + 1 := rfl
    have hrest : ¬ (p.skip 1).Counts ms i := by
      unfold Place.Counts at hi ⊢
      rw [hlength] at hi
      rw [Place.next_skip]
      omega
    rw [p.dataIn_cons, Place.after, ih (p.skip 1) hp hrest]
    by_cases hhead : p.opened.head? = some i
    · simp [hhead, Event.data?]
    · simp [hhead]
  | @branch outer depth mark mark' tag e inner ms es data own _ hcontent _ _ hinner ih =>
    have hinside := Place.length_opened_inside hp
    rw [Place.Counts, length_tagsOf_branch] at hi
    have hne : p.next ≠ i := by omega
    have hin : ¬ p.inside.Counts inner i := by
      unfold Place.Counts
      rw [Place.next_inside]
      omega
    have hrest : ¬ (p.skip (1 + (tagsOf inner).length)).Counts ms i := by
      unfold Place.Counts
      rw [Place.next_skip]
      omega
    rw [hcontent.dataIn_branch p hp, hinner p.inside hinside hin, ih (p.skip _) hp hrest]
    by_cases hhead : p.opened.head? = some i
    · simp [hhead, hne]
    · simp [hhead, hne]
  | @other outer depth m ms es own htag hclose _ ih =>
    have hrest : ¬ p.Counts ms i := by simpa [Place.Counts, tagsOf_cons, htag] using hi
    rw [p.dataIn_cons, p.after_eq_self htag hclose, ih p hp hrest]
    by_cases hhead : p.opened.head? = some i
    · simp [hhead]
    · simp [hhead]
  | @stray outer mark ms es own _ ih =>
    have hrest : ¬ p.Counts ms i := by simpa [Place.Counts, tagsOf_cons, Event.tag?] using hi
    rw [p.dataIn_cons, Place.after, Place.outside_eq_self (List.length_eq_zero_iff.1 hp),
      ih p hp hrest]
    simp [Event.data?]

/-- An element that is neither the innermost open one nor one of the content
has none of the character data. -/
theorem Content.dataIn_eq_nil (h : Content limits positionOf outer depth ms es own) (p : Place)
    (hp : p.opened.length = depth) {i : Nat} (hhead : p.opened.head? ≠ some i)
    (hi : ¬ p.Counts ms i) : p.dataIn i ms = [] := by
  rw [h.dataIn_of_not_counts p hp hi, if_neg hhead]

/-- The text of an element is made up of the character data for which it is
the innermost open one. -/
theorem Content.text (h : Content limits positionOf outer depth ms es own) (p : Place)
    (hp : p.opened.length = depth) (hopened : AllBelow p.next p.opened) :
    Numbered (fun i x => x.2.text = joined (p.dataIn i ms)) p.next
      (Element.listedAll p.opened p.next es) := by
  -- on the grammar: the numbers keep apart what is in an element and what is behind it
  induction h generalizing p with
  | nothing =>
    rw [Element.listedAll]
    exact numbered_nil
  | @leaf outer depth mark tag e ms es own _ hchildren htext hrest ih =>
    have hdata : ∀ i, p.dataIn i (⟨mark, .empty tag⟩ :: ms) = (p.skip 1).dataIn i ms := fun i => by
      simp [p.dataIn_cons, Place.after, Event.data?]
    simp only [hdata]
    rw [Element.listedAll_cons, hchildren, Element.listedAll, List.nil_append, numbered_cons]
    refine ⟨?_, ih (p.skip 1) hp (hopened.add 1)⟩
    have hown : (p.skip 1).dataIn p.next ms = [] :=
      hrest.dataIn_eq_nil (p.skip 1) hp (hopened.head?_ne (Nat.le_refl _))
        (Place.not_counts_of_lt (Nat.lt_succ_self _))
    rw [hown, htext]
    rfl
  | @branch outer depth mark mark' tag e inner ms es data own _ hcontent htext hrest hinner ih =>
    have hinside := Place.length_opened_inside hp
    have hbehind : ∀ i, p.next ≤ i → i < p.next + (1 + (tagsOf inner).length) →
        (p.skip (1 + (tagsOf inner).length)).dataIn i ms = [] := fun i hle hlt =>
      hrest.dataIn_eq_nil (p.skip _) hp (hopened.head?_ne hle) (Place.not_counts_of_lt hlt)
    have hwithin : ∀ i, p.next + (1 + (tagsOf inner).length) ≤ i →
        p.inside.dataIn i inner = [] := by
      intro i hle
      have hhead : p.inside.opened.head? ≠ some i := by
        rw [Place.head?_opened_inside]
        intro h
        have := Option.some.inj h
        omega
      apply hcontent.dataIn_eq_nil p.inside hinside hhead
      apply Place.not_counts_of_le
      rw [Place.next_inside]
      omega
    have hown : p.inside.dataIn p.next inner = data := by
      rw [hcontent.dataIn_of_not_counts p.inside hinside
        (Place.not_counts_of_lt (Nat.lt_succ_self _)), Place.head?_opened_inside, if_pos rfl]
    simp only [hcontent.dataIn_branch p hp]
    rw [Element.listedAll_cons, numbered_cons, numbered_append, hcontent.length_listedAll,
      Nat.add_assoc]
    refine ⟨?_, (hinner p.inside hinside hopened.cons).imp fun i x hle hlt hx => ?_,
      (ih (p.skip _) hp (hopened.add _)).imp fun i x hle _ hx => ?_⟩
    · rw [hown, hbehind p.next (Nat.le_refl _) (by omega), List.append_nil, htext]
    · rw [hcontent.length_listedAll] at hlt
      rw [Place.next_inside] at hle hlt
      rw [hbehind i (by omega) (by omega), List.append_nil, hx]
    · rw [hwithin i hle, List.nil_append, hx]
  | @other outer depth m ms es own htag hclose _ ih =>
    refine (ih p hp hopened).imp fun i x hle _ hx => ?_
    rw [p.dataIn_cons, p.after_eq_self htag hclose, if_neg (hopened.head?_ne hle), hx]
    rfl
  | @stray outer mark ms es own _ ih =>
    refine (ih p hp hopened).imp fun i x hle _ hx => ?_
    rw [p.dataIn_cons, Place.after, Place.outside_eq_self (List.length_eq_zero_iff.1 hp),
      if_neg (hopened.head?_ne hle), hx]
    rfl

end

/-! ## Documents -/

/-- An element is the tree of the tags of a text. From the top the elements are
those of the tags, in order. Each is in the elements that are open at its tag.
Its children are the elements that it is the innermost one around, in order,
and its text is the character data that it is the innermost one around. -/
structure Element.IsTreeOf (root : Element) (limits : Limits) (positionOf : Nat → Position)
    (ms : List Marked) : Prop where
  opened : List.Forall₂ (fun t x => x.2.IsOpenedBy limits positionOf t) (tagsOf ms)
    (root.preorder 0)
  nested : Place.start.around ms = (root.listed [] 0).map (·.1)
  children : Numbered (fun i x => x.2.children = childrenOf (some i) (root.listed [] 0)) 0
    (root.listed [] 0)
  text : Numbered (fun i x => x.2.text = joined (Place.start.dataIn i ms)) 0 (root.listed [] 0)

section

variable {limits : Limits} {positionOf : Nat → Position} {outer : Scope} {ms : List Marked}
  {es : List Element} {own : List (List Char)} {b : Building}

theorem Content.opened_nil (h : Content limits positionOf outer 0 ms es own) :
    (Place.start.afterAll ms).opened = [] := by
  rw [h.afterAll Place.start rfl]
  rfl

/-- As many elements are open as their tags say. -/
theorem Stands.length_opened (h : Stands limits positionOf ms b) :
    (Place.start.afterAll ms).opened.length = b.opened.length := by
  induction h with
  | outside hcontent =>
    rw [hcontent.opened_nil]
    rfl
  | @inside ms inner b d mark tag data _ _ hinner _ ih =>
    have hinside := Place.length_opened_inside ih
    rw [Place.afterAll_append, Place.afterAll_cons, Place.after, hinner.afterAll _ hinside]
    exact hinside

/-- With nothing around it a content has as many elements as tags that stand
where nothing is open. -/
theorem Content.count_around (h : Content limits positionOf outer 0 ms es own) :
    (Place.start.around ms).count [] = es.length := by
  have htop : childrenOf none (Element.listedAll [] 0 es) = es := by
    rw [Element.childrenOf_listedAll [] 0 es (by simp)]
    rfl
  rw [h.around Place.start rfl, ← length_childrenOf_none]
  exact congrArg List.length htop

theorem Content.isTreeOf {e : Element} (h : Content limits positionOf outer 0 ms [e] own) :
    e.IsTreeOf limits positionOf ms := by
  have hopened := h.opened [] 0
  have hnested := h.around Place.start rfl
  have htext := h.text Place.start rfl fun k hk => by cases hk
  refine ⟨?_, ?_, Element.childrenOf_number (fun k hk => by cases hk) e, ?_⟩
  · have hpreorder := e.map_length_listed [] 0
    rw [List.length_nil] at hpreorder
    rw [← hpreorder, List.forall₂_map_right_iff, ← Element.listedAll_singleton]
    exact hopened
  · rw [hnested, ← Element.listedAll_singleton]
    rfl
  · rw [← Element.listedAll_singleton]
    exact htext

/-- With one element at the top and none left open, that element is the root. -/
theorem Stands.isTreeOf (h : Stands limits positionOf ms b) (hopened : b.opened = [])
    (hone : (Place.start.around ms).count [] = 1) :
    ∃ e, b.root = some e ∧ e.IsTreeOf limits positionOf ms := by
  obtain ⟨es, own, hcontent, hroot⟩ := h.content hopened
  rw [hcontent.count_around] at hone
  obtain ⟨e, rfl⟩ := List.length_eq_one_iff.1 hone
  exact ⟨e, hroot, hcontent.isTreeOf⟩

end

namespace Document

/-- Events with one element at their top, if a building comes of them and no element is
left open, give the tree of their tags. How many are left open is told by the tags alone,
and end tags of which there are too many do nothing. So a text with one element at its
top, if it is read, gives the tree of its tags, and a text that leaves an element open is
not read. -/
theorem the_tree_is_that_of_the_tags (limits : Limits) :
    (∀ (positionOf : Nat → Position) (ms : List Marked) (b : Building),
      build limits positionOf ms = .ok b →
        b.opened.length = (Place.start.afterAll ms).opened.length ∧
          (b.opened = [] → (Place.start.around ms).count [] = 1 →
            ∃ e, b.root = some e ∧ e.IsTreeOf limits positionOf ms)) ∧
      ∀ xml : String,
        ((Place.start.afterAll (events xml)).opened ≠ [] →
            ∃ fault, parse limits xml = .error fault) ∧
          ∀ root, parse limits xml = .ok root → (Place.start.around (events xml)).count [] = 1 →
            ∃ e, root = some e ∧ e.IsTreeOf limits (positionOf xml) (events xml) := by
  refine ⟨fun positionOf ms b hb => ⟨(Stands.of_build hb).length_opened.symm,
    (Stands.of_build hb).isTreeOf⟩, fun xml => ⟨fun hopened => ?_, fun root hparse hone => ?_⟩⟩
  · cases hparse : parse limits xml with
    | error fault => exact ⟨fault, rfl⟩
    | ok root =>
      obtain ⟨_, _, b, hb, hnone, _⟩ := parse_eq_ok_iff.1 hparse
      have hlength := (Stands.of_build hb).length_opened
      rw [hnone, List.length_nil, List.length_eq_zero_iff] at hlength
      exact absurd hlength hopened
  · obtain ⟨_, _, b, hb, hnone, rfl⟩ := parse_eq_ok_iff.1 hparse
    exact (Stands.of_build hb).isTreeOf hnone hone

/-- Text in three pieces, with elements between them. -/
def exampleMixed : String := "<a>u<b/><![CDATA[v]]><c> <d>w</d></c>x</a>"

/-- An end tag that ends nothing, before an empty tag. -/
def exampleStray : List Marked := [⟨0, .close⟩, ⟨4, .empty ⟨['a'], []⟩⟩]

theorem the_pieces_of_a_text_are_put_together :
    (∃ b e, build .standard (fun _ => default) exampleStray = .ok b ∧ b.root = some e ∧
        e.IsTreeOf .standard (fun _ => default) exampleStray) ∧
      (∃ fault, parse .standard "<a><b></b>" = .error fault) ∧
      ∃ e, parse .standard exampleMixed = .ok (some e) ∧ e.text = some "uvx" ∧
        e.IsTreeOf .standard (positionOf exampleMixed) (events exampleMixed) := by
  obtain ⟨hbuilt, hread⟩ := the_tree_is_that_of_the_tags .standard
  obtain ⟨b, hb⟩ : ∃ b, build .standard (fun _ => default) exampleStray = .ok b := by
    have hok : (build .standard (fun _ => default) exampleStray).isOk = true := by decide +kernel
    cases hb : build .standard (fun _ => default) exampleStray with
    | error fault =>
      rw [hb] at hok
      cases hok
    | ok b => exact ⟨b, rfl⟩
  obtain ⟨hlength, hstray⟩ := hbuilt _ _ b hb
  have hnone : b.opened = [] := List.length_eq_zero_iff.1 (hlength.trans (by decide))
  obtain ⟨stray, hroot, hstray⟩ := hstray hnone (by decide)
  have hopen : (Place.start.afterAll (events "<a><b></b>")).opened ≠ [] := by decide +kernel
  have hone : (Place.start.around (events exampleMixed)).count [] = 1 := by decide +kernel
  obtain ⟨e, hparse, htext⟩ : ∃ e, parse .standard exampleMixed = .ok (some e) ∧
      e.text = some "uvx" := exists_root (by decide +kernel)
  obtain ⟨root, hsome, htree⟩ := (hread _).2 _ hparse hone
  obtain rfl := Option.some.inj hsome
  exact ⟨⟨b, stray, hb, hroot, hstray⟩, (hread _).1 hopen, e, hparse, htext, htree⟩

end Document

end Wsdl.Xml
