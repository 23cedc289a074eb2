-- How often an interface has what it inherits. The search through its extends
-- list ends, and finds every interface that steps lead to once, though there may
-- be many ways to it, some of them in circles. So each operation and fault that
-- is declared there is inherited once, after the ones that the interface declares
-- itself, which a name finds first.
import Mathlib.Data.List.Nodup
import Wsdl.Proofs.Enumeration
import Wsdl.Proofs.Inheritance

open Relation

namespace Wsdl.Component.Description

/-! ## The search, turn by turn -/

/-- What a search has found so far, and the names that wait. -/
structure Search where
  found : List Interface
  waiting : List QName

/-- A turn of the search takes the next name. If it leads to an interface that is
new, that is found, and the names in its extends list come next. -/
inductive Turn (d : Description) : Search → Search → Prop
  | nowhere {found : List Interface} {q : QName} {waiting : List QName} :
      d.interface? q = none → Turn d ⟨found, q :: waiting⟩ ⟨found, waiting⟩
  | again {found : List Interface} {q : QName} {waiting : List QName} {i : Interface} :
      d.interface? q = some i → i ∈ found → Turn d ⟨found, q :: waiting⟩ ⟨found, waiting⟩
  | new {found : List Interface} {q : QName} {waiting : List QName} {i : Interface} :
      d.interface? q = some i → i ∉ found →
        Turn d ⟨found, q :: waiting⟩ ⟨found ++ [i], i.extended.reverse ++ waiting⟩

variable {d : Description} {i j : Interface} {q : QName} {m n : Nat} {found : List Interface}
  {waiting : List QName}

/-- No search goes on forever: each turn finds another interface of the description,
or uses up a name. -/
theorem wellFounded_turn (d : Description) : WellFounded (flip d.Turn) := by
  let rank (s : Search) : Nat × Nat := ((d.unfound s.found).length, s.waiting.length)
  have hlex : WellFounded (Prod.Lex (· < ·) (· < ·) : Nat × Nat → Nat × Nat → Prop) :=
    (Prod.lex Nat.lt_wfRel Nat.lt_wfRel).wf
  refine Subrelation.wf (fun {t s} h => ?_) (InvImage.wf rank hlex)
  cases h with
  | nowhere => exact Prod.Lex.right _ (by simp)
  | again => exact Prod.Lex.right _ (by simp)
  | new hq hi => exact Prod.Lex.left _ _ (length_unfound_lt (mem_of_interface? hq) hi)

theorem closureFrom_eq_of_turn {s t : Search} (h : d.Turn s t) :
    d.closureFrom s.found s.waiting = d.closureFrom t.found t.waiting := by
  cases h with
  | nowhere hq => exact closureFrom_cons_of_none hq
  | again hq hi => exact closureFrom_cons_of_mem hq hi
  | new hq hi => exact closureFrom_cons_of_not_mem hq hi

theorem turns_closureFrom (d : Description) (found : List Interface) (waiting : List QName) :
    ReflTransGen d.Turn ⟨found, waiting⟩ ⟨d.closureFrom found waiting, []⟩ := by
  fun_induction closureFrom d found waiting with
  | case1 => exact .refl
  | case2 found q waiting hq ih => exact .head (.nowhere hq) ih
  | case3 found q waiting i hq hi ih => exact .head (.again hq hi) ih
  | case4 found q waiting i hq hi ih => exact .head (.new hq hi) ih

/-- A search that has no name left has found the closure. -/
theorem turns_iff : ReflTransGen d.Turn ⟨[], i.extended.reverse⟩ ⟨found, []⟩ ↔
    found = d.closure i := by
  constructor
  · intro h
    have hkept : ∀ t, ReflTransGen d.Turn ⟨[], i.extended.reverse⟩ t →
        d.closure i = d.closureFrom t.found t.waiting := by
      intro t ht
      induction ht with
      | refl => rfl
      | tail _ hturn ih => exact ih.trans (closureFrom_eq_of_turn hturn)
    rw [hkept _ h, closureFrom]
  · rintro rfl
    exact turns_closureFrom d [] i.extended.reverse

/-! ## What is found -/

theorem nodup_closureFrom (h : found.Nodup) : (d.closureFrom found waiting).Nodup := by
  fun_induction closureFrom d found waiting with
  | case1 => exact h
  | case2 found q waiting hq ih => exact ih h
  | case3 found q waiting i hq hi ih => exact ih h
  | case4 found q waiting i hq hi ih => exact ih (by simpa using h.concat hi)

theorem nodup_closure (d : Description) (i : Interface) : (d.closure i).Nodup :=
  nodup_closureFrom List.nodup_nil

theorem interface?_of_mem_closure (h : j ∈ d.closure i) :
    ∃ q, j.name = some q ∧ d.interface? q = some j := by
  obtain ⟨_, _, q, _, hq⟩ := TransGen.tail'_iff.1 (mem_closure_iff.1 h)
  exact ⟨q, name_of_interface? hq, hq⟩

/-- A name stands for one interface, so what is found has different names. -/
theorem nodup_names_closure (d : Description) (i : Interface) :
    ((d.closure i).map (·.name)).Nodup := by
  refine (nodup_closure d i).map_on fun j hj j' hj' hname => ?_
  obtain ⟨q, hq, hqj⟩ := interface?_of_mem_closure hj
  obtain ⟨q', hq', hqj'⟩ := interface?_of_mem_closure hj'
  obtain rfl : q = q' := Option.some.inj (hq.symm.trans (hname.trans hq'))
  exact Option.some.inj (hqj.symm.trans hqj')

/-! ## Where it is found -/

/-- The place that the name of an interface leads to. -/
def placeOf (d : Description) (j : Interface) : Nat := d.interfaces.findIdx (·.name == j.name)

theorem placeOf_of_successorPlace (h : d.SuccessorPlace m n) (hn : d.interfaces[n]? = some j) :
    d.placeOf j = n := by
  obtain ⟨_, _, q, _, hq⟩ := h
  obtain ⟨hlt, hname, hfirst⟩ := List.findIdx?_eq_some_iff_getElem.1 hq
  obtain rfl : d.interfaces[n] = j := by simpa [List.getElem?_eq_getElem hlt] using hn
  rw [placeOf, beq_iff_eq.1 hname]
  exact (List.findIdx?_eq_some_iff_findIdx_eq.1 hq).2

theorem placeOf_of_transGen (h : TransGen d.SuccessorPlace m n) (hn : d.interfaces[n]? = some j) :
    d.placeOf j = n := by
  obtain ⟨_, _, hlast⟩ := TransGen.tail'_iff.1 h
  exact placeOf_of_successorPlace hlast hn

/-- The search finds what is at the places that steps lead to, each of them once. -/
theorem enumerates_closure (hm : d.interfaces[m]? = some i) :
    Enumerates (· ≠ ·) (fun n j => TransGen d.SuccessorPlace m n ∧ d.interfaces[n]? = some j)
      (d.closure i) := by
  have hplace : ∀ n j, TransGen d.SuccessorPlace m n ∧ d.interfaces[n]? = some j ↔
      j ∈ d.closure i ∧ d.placeOf j = n := by
    intro n j
    rw [mem_closure_iff]
    constructor
    · rintro ⟨hmn, hn⟩
      obtain ⟨j', hj', hij'⟩ := transGen_successor hm hmn
      obtain rfl : j = j' := Option.some.inj (hn.symm.trans hj')
      exact ⟨hij', placeOf_of_transGen hmn hn⟩
    · rintro ⟨hij, rfl⟩
      obtain ⟨n, hn, hmn⟩ := transGen_successorPlace hm hij
      rw [placeOf_of_transGen hmn hn]
      exact ⟨hmn, hn⟩
  refine enumerates_of_place d.placeOf ?_ hplace
  refine (nodup_closure d i).map_on fun j hj j' hj' he => ?_
  have hat := ((hplace _ j).2 ⟨hj, rfl⟩).2
  have hat' := ((hplace _ j').2 ⟨hj', rfl⟩).2
  rw [he] at hat
  exact Option.some.inj (hat.symm.trans hat')

/-! ## Where operations and faults come from -/

/-- The places of what an interface has operations and faults from: its own, and
those that steps lead to, unless an equal interface is there. -/
def OwnerPlace (d : Description) (m n : Nat) : Prop :=
  n = m ∨ TransGen d.SuccessorPlace m n ∧ d.interfaces[n]? ≠ d.interfaces[m]?

theorem enumerates_owners (hm : d.interfaces[m]? = some i) :
    Enumerates (· ≠ ·) (fun n j => d.OwnerPlace m n ∧ d.interfaces[n]? = some j)
      (d.owners i) := by
  have hothers := (enumerates_closure hm).filter (! · == i)
  have happart : ∀ n n' j j', (n = m ∧ some i = some j) →
      ((TransGen d.SuccessorPlace m n' ∧ d.interfaces[n']? = some j') ∧ (! j' == i) = true) →
      n ≠ n' := by
    rintro n n' j j' ⟨rfl, -⟩ ⟨⟨-, hn'⟩, hj'⟩ rfl
    obtain rfl : j' = i := Option.some.inj (hn'.symm.trans hm)
    simp at hj'
  refine ((enumerates_toList m (some i)).append hothers happart).congr fun n j => ?_
  constructor
  · rintro (⟨rfl, hj⟩ | ⟨⟨hmn, hn⟩, hj⟩)
    · exact ⟨Or.inl rfl, hm.trans hj⟩
    · refine ⟨Or.inr ⟨hmn, ?_⟩, hn⟩
      rw [hn, hm]
      simpa using hj
  · rintro ⟨rfl | ⟨hmn, hne⟩, hn⟩
    · exact Or.inl ⟨rfl, hm.symm.trans hn⟩
    · refine Or.inr ⟨⟨hmn, hn⟩, ?_⟩
      rw [hn, hm] at hne
      simpa using hne

section

variable {α : Type} {own : Interface → List α} {name : α → Option QName}

/-- What an interface at one of the places declares, and which it is of those. -/
def IsDeclaredAt (d : Description) (m : Nat) (own : Interface → List α) (p : Nat × Nat) (x : α) :
    Prop :=
  d.OwnerPlace m p.1 ∧ ∃ j, d.interfaces[p.1]? = some j ∧ (own j)[p.2]? = some x

theorem enumerates_flatMap_owners (hm : d.interfaces[m]? = some i) (own : Interface → List α) :
    Enumerates (· ≠ ·) (d.IsDeclaredAt m own) ((d.owners i).flatMap own) := by
  have hall := ((enumerates_owners hm).flatMap fun j => enumerates_getElem? (own j)).relabel
    Function.injective_id
  refine hall.congr fun p x => ?_
  constructor
  · rintro ⟨_, rfl, j, ⟨howner, hj⟩, hx⟩
    exact ⟨howner, j, hj, hx⟩
  · rintro ⟨howner, j, hj, hx⟩
    exact ⟨p, rfl, j, ⟨howner, hj⟩, hx⟩

/-- What an interface has of one kind, where `own` is what an interface declares
of it: all of that is in `all`, and `find?` looks for a name there. -/
structure InheritsOnce (d : Description) (m : Nat) (i : Interface) (own : Interface → List α)
    (name : α → Option QName) (all : List α) (find? : QName → Option α) : Prop where
  /-- What it declares itself comes first. What the others declare follows, in the
  order in which the search finds them. -/
  inOrder : all = own i ++ ((d.closure i).filter (! · == i)).flatMap own
  /-- Each one that is declared is there once, however many steps lead to where it is
  declared, and nothing else is. -/
  once : Enumerates (· ≠ ·) (d.IsDeclaredAt m own) all
  /-- A name finds something if one that is declared has it, and only then. -/
  finds : ∀ q, (find? q).isSome = true ↔ ∃ p x, d.IsDeclaredAt m own p x ∧ name x = some q
  /-- What the interface declares itself is found before what it inherits. -/
  ownFirst : ∀ q, find? q = ((own i).find? (name · == some q)).or
    ((((d.closure i).filter (! · == i)).flatMap own).find? (name · == some q))

theorem inheritsOnce (hm : d.interfaces[m]? = some i) (own : Interface → List α)
    (name : α → Option QName) :
    InheritsOnce d m i own name ((d.owners i).flatMap own) fun q =>
      ((d.owners i).flatMap own).find? (name · == some q) := by
  have honce := enumerates_flatMap_owners hm own
  refine ⟨rfl, honce, fun q => ?_, fun q => ?_⟩
  · rw [List.find?_isSome]
    simp only [honce.mem_iff, beq_iff_eq]
    constructor
    · rintro ⟨x, ⟨p, hx⟩, hq⟩
      exact ⟨p, x, hx, hq⟩
    · rintro ⟨p, x, hx, hq⟩
      exact ⟨x, ⟨p, hx⟩, hq⟩
  · rw [← List.find?_append]
    rfl

end

/-! ## The law -/

/-- The search through the extends list of an interface ends, and ends with its
closure. That is what is at the places that steps lead to, each of them once, and
no two interfaces in it are equal or share a name. The operations of the interface
are its own ones and then those that the others in its closure declare, each of
them once, and a name finds one of its own first. It is the same with faults. -/
theorem an_interface_inherits_each_declaration_once (hm : d.interfaces[m]? = some i) :
    WellFounded (flip d.Turn) ∧
    (∀ found, ReflTransGen d.Turn ⟨[], i.extended.reverse⟩ ⟨found, []⟩ ↔ found = d.closure i) ∧
    Enumerates (· ≠ ·) (fun n j => TransGen d.SuccessorPlace m n ∧ d.interfaces[n]? = some j)
      (d.closure i) ∧
    (d.closure i).Nodup ∧ ((d.closure i).map (·.name)).Nodup ∧
    InheritsOnce d m i (·.operations) (·.name) (d.operationsOf i) (d.operation? i) ∧
    InheritsOnce d m i (·.faults) (·.name) (d.faultsOf i) (d.fault? i) :=
  ⟨wellFounded_turn d, fun _ => turns_iff, enumerates_closure hm, nodup_closure d i,
    nodup_names_closure d i, inheritsOnce hm _ _, inheritsOnce hm _ _⟩

def exampleBottomAsk : Operation := ⟨some ⟨none, "ask"⟩, none, [], [], []⟩

/-- Declares the operation that all the others lead to, once more, and extends an
interface that is not there. -/
def exampleBottom : Interface :=
  ⟨some ⟨none, "Bottom"⟩, [⟨none, "Left"⟩, ⟨none, "Missing"⟩, ⟨none, "Right"⟩], [], [],
    [exampleBottomAsk]⟩

def exampleLeft : Interface := ⟨some ⟨none, "Left"⟩, [⟨none, "Top"⟩], [], [], []⟩

def exampleRight : Interface := ⟨some ⟨none, "Right"⟩, [⟨none, "Top"⟩], [], [], []⟩

/-- Extends the first one, so the steps go round. -/
def exampleTop : Interface :=
  ⟨some ⟨none, "Top"⟩, [⟨none, "Bottom"⟩], [], [],
    [⟨some ⟨none, "ask"⟩, some "urn:ask", [], [], []⟩, ⟨some ⟨none, "tell"⟩, none, [], [], []⟩]⟩

def exampleDiamond : Description :=
  ⟨none, [exampleBottom, exampleLeft, exampleRight, exampleTop], [], [], [], []⟩

/-- Two ways lead to the top, and each of its operations is inherited once. The name
of the first finds the one at the bottom. -/
theorem the_top_of_the_diamond_is_inherited_once :
    exampleDiamond.interfaces[0]? = some exampleBottom ∧
      (exampleDiamond.closure exampleBottom).length = 4 ∧
      ((exampleDiamond.closure exampleBottom).map (·.name)).Nodup ∧
      (exampleDiamond.operationsOf exampleBottom).length = 3 ∧
      Enumerates (· ≠ ·) (exampleDiamond.IsDeclaredAt 0 (·.operations))
        (exampleDiamond.operationsOf exampleBottom) ∧
      exampleDiamond.operation? exampleBottom ⟨none, "ask"⟩ = some exampleBottomAsk := by
  have hm : exampleDiamond.interfaces[0]? = some exampleBottom := rfl
  obtain ⟨_, _, _, _, hnames, hoperations, _⟩ := an_interface_inherits_each_declaration_once hm
  refine ⟨hm, by cbv, hnames, by cbv, hoperations.once, ?_⟩
  rw [hoperations.ownFirst]
  rfl

end Wsdl.Component.Description
