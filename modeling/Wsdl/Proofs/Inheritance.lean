-- What the searches through extends lists find. A step leads from an
-- interface to the one that a name in its extends list stands for. The
-- closure of an interface is what one or more steps lead to, and an interface
-- extends itself where they lead back to it, or to one that is equal to it.
-- Both searches end on every description: each turn either finds another of
-- its interfaces or uses up a name.
import Mathlib.Logic.Relation
import Wsdl.Check.Component

open Relation

namespace Wsdl.Component.Description

variable {d : Description} {i j : Interface} {q : QName} {m n : Nat}

/-! ## Steps -/

/-- A name in the extends list of `i` stands for `j`. -/
def Successor (d : Description) (i j : Interface) : Prop :=
  ∃ q ∈ i.extended, d.interface? q = some j

/-- The place of the first interface with a name. -/
def interfaceIndex? (d : Description) (q : QName) : Option Nat :=
  d.interfaces.findIdx? (·.name == some q)

/-- A name in the extends list of the interface at place `m` stands for the
interface at place `n`. Interfaces at two places may be equal. -/
def SuccessorPlace (d : Description) (m n : Nat) : Prop :=
  ∃ i, d.interfaces[m]? = some i ∧ ∃ q ∈ i.extended, d.interfaceIndex? q = some n

/-! ## The closure -/

section

variable {found : List Interface} {waiting : List QName}

theorem mem_closureFrom_of_mem (h : j ∈ found) : j ∈ d.closureFrom found waiting := by
  fun_induction closureFrom d found waiting with
  | case1 => exact h
  | case2 found q waiting hq ih => exact ih h
  | case3 found q waiting i hq hi ih => exact ih h
  | case4 found q waiting i hq hi ih => exact ih (List.mem_append_left _ h)

theorem mem_closureFrom_of_waiting (hq : q ∈ waiting) (hj : d.interface? q = some j) :
    j ∈ d.closureFrom found waiting := by
  fun_induction closureFrom d found waiting with
  | case1 => cases hq
  | case2 found p waiting hp ih =>
    rcases List.mem_cons.1 hq with rfl | hq
    · simp [hp] at hj
    · exact ih hq
  | case3 found p waiting i hp hi ih =>
    rcases List.mem_cons.1 hq with rfl | hq
    · obtain rfl : i = j := by simpa [hp] using hj
      exact mem_closureFrom_of_mem hi
    · exact ih hq
  | case4 found p waiting i hp hi ih =>
    rcases List.mem_cons.1 hq with rfl | hq
    · obtain rfl : i = j := by simpa [hp] using hj
      exact mem_closureFrom_of_mem (List.mem_append_right _ (List.mem_singleton_self i))
    · exact ih (List.mem_append_right _ hq)

/-- Whatever holds of the found interfaces and of those that names wait for,
and is kept by steps, holds of everything the search finds. -/
theorem forall_mem_closureFrom {P : Interface → Prop}
    (hstep : ∀ a b, P a → d.Successor a b → P b) (hfound : ∀ a ∈ found, P a)
    (hwaiting : ∀ q ∈ waiting, ∀ a, d.interface? q = some a → P a)
    (h : j ∈ d.closureFrom found waiting) : P j := by
  fun_induction closureFrom d found waiting with
  | case1 => exact hfound j h
  | case2 found p waiting hp ih =>
    exact ih hfound (fun q hq => hwaiting q (List.mem_cons_of_mem _ hq)) h
  | case3 found p waiting i hp hi ih =>
    exact ih hfound (fun q hq => hwaiting q (List.mem_cons_of_mem _ hq)) h
  | case4 found p waiting i hp hi ih =>
    have hPi : P i := hwaiting p List.mem_cons_self i hp
    refine ih ?_ ?_ h
    · intro a ha
      rcases List.mem_append.1 ha with ha | ha
      · exact hfound a ha
      · exact List.mem_singleton.1 ha ▸ hPi
    · intro q hq a ha
      rcases List.mem_append.1 hq with hq | hq
      · exact hstep i a hPi ⟨q, List.mem_reverse.1 hq, ha⟩
      · exact hwaiting q (List.mem_cons_of_mem _ hq) a ha

/-- What the search adds is never a dead end: it adds the successors too. -/
theorem successor_mem_closureFrom (hi : i ∈ d.closureFrom found waiting)
    (hj : d.Successor i j) : i ∈ found ∨ j ∈ d.closureFrom found waiting := by
  fun_induction closureFrom d found waiting with
  | case1 => exact Or.inl hi
  | case2 found p waiting hp ih => exact ih hi
  | case3 found p waiting a hp ha ih => exact ih hi
  | case4 found p waiting a hp ha ih =>
    rcases ih hi with h | h
    · rcases List.mem_append.1 h with h | h
      · exact Or.inl h
      · obtain rfl := List.mem_singleton.1 h
        obtain ⟨q, hq, hqj⟩ := hj
        exact Or.inr (mem_closureFrom_of_waiting
          (List.mem_append_left _ (List.mem_reverse.2 hq)) hqj)
    · exact Or.inr h

/-- The search for `i` ends early, and still answers as the search that goes
through to the end. -/
theorem leadsTo_eq_true_iff {seen : List Interface} (hi : i ∉ seen) :
    d.leadsTo i seen waiting = true ↔ i ∈ d.closureFrom seen waiting := by
  fun_induction leadsTo d i seen waiting with
  | case1 seen => simp [closureFrom, hi]
  | case2 seen p waiting hp ih => rw [ih hi, closureFrom_cons_of_none hp]
  | case3 seen p waiting hp =>
    exact ⟨fun _ => mem_closureFrom_of_waiting List.mem_cons_self hp, fun _ => rfl⟩
  | case4 seen p waiting j hp hne hj ih => rw [ih hi, closureFrom_cons_of_mem hp hj]
  | case5 seen p waiting j hp hne hj ih =>
    have hi' : i ∉ seen ++ [j] := by simp [hi, Ne.symm hne]
    rw [ih hi', closureFrom_cons_of_not_mem hp hj]

end

/-- The closure is what one or more steps lead to. -/
theorem mem_closure_iff : j ∈ d.closure i ↔ TransGen d.Successor i j := by
  constructor
  · intro h
    refine forall_mem_closureFrom (P := TransGen d.Successor i) ?_ ?_ ?_ h
    · exact fun a b ha hb => ha.tail hb
    · simp
    · exact fun q hq a ha => TransGen.single ⟨q, List.mem_reverse.1 hq, ha⟩
  · intro h
    induction h with
    | single hj =>
      obtain ⟨q, hq, hqj⟩ := hj
      exact mem_closureFrom_of_waiting (List.mem_reverse.2 hq) hqj
    | tail _ hj ih =>
      rcases successor_mem_closureFrom ih hj with h | h
      · cases h
      · exact h

/-- An interface has the operations and faults of what steps lead to from
it, if any are taken. -/
theorem mem_owners_iff : j ∈ d.owners i ↔ ReflTransGen d.Successor i j := by
  rw [reflTransGen_iff_eq_or_transGen, ← mem_closure_iff]
  by_cases h : j = i <;> simp [owners, h]

theorem mem_operationsOf_iff {o : Operation} :
    o ∈ d.operationsOf i ↔ ∃ j, ReflTransGen d.Successor i j ∧ o ∈ j.operations := by
  simp only [operationsOf, List.mem_flatMap, mem_owners_iff]

theorem extendsItself_iff_mem_closure : d.extendsItself i = true ↔ i ∈ d.closure i :=
  leadsTo_eq_true_iff (by simp)

/-! ## What only follows names

Descriptions whose names lead to the same interfaces have the same closures,
whatever else they hold. -/

section

variable {d' : Description}

theorem closureFrom_congr (h : d.interface? = d'.interface?) (found : List Interface)
    (waiting : List QName) : d.closureFrom found waiting = d'.closureFrom found waiting := by
  fun_induction closureFrom d found waiting with
  | case1 => rw [closureFrom]
  | case2 found q waiting hq ih =>
    rw [h] at hq
    rw [ih, closureFrom_cons_of_none hq]
  | case3 found q waiting i hq hi ih =>
    rw [h] at hq
    rw [ih, closureFrom_cons_of_mem hq hi]
  | case4 found q waiting i hq hi ih =>
    rw [h] at hq
    rw [ih, closureFrom_cons_of_not_mem hq hi]

theorem closure_congr (h : d.interface? = d'.interface?) : d.closure = d'.closure :=
  funext fun i => closureFrom_congr h [] i.extended.reverse

theorem extendsItself_congr (h : d.interface? = d'.interface?) :
    d.extendsItself = d'.extendsItself := by
  funext i
  rw [Bool.eq_iff_iff, extendsItself_iff_mem_closure, extendsItself_iff_mem_closure,
    closure_congr h]

theorem owners_congr (h : d.interface? = d'.interface?) : d.owners = d'.owners := by
  funext i
  rw [owners, owners, closure_congr h]

theorem operationsOf_congr (h : d.interface? = d'.interface?) :
    d.operationsOf = d'.operationsOf := by
  funext i
  rw [operationsOf, operationsOf, owners_congr h]

theorem fault?_congr (h : d.interface? = d'.interface?) : d.fault? = d'.fault? := by
  funext i q
  simp only [fault?, faultsOf, owners_congr h]

theorem operation?_congr (h : d.interface? = d'.interface?) : d.operation? = d'.operation? := by
  funext i q
  simp only [operation?, operationsOf_congr h]

end

/-! ## Places -/

theorem interface?_eq_bind (d : Description) (q : QName) :
    d.interface? q = (d.interfaceIndex? q).bind (d.interfaces[·]?) :=
  List.find?_eq_bind_findIdx?_getElem?

theorem successor_of_successorPlace (hm : d.interfaces[m]? = some i) (h : d.SuccessorPlace m n) :
    ∃ j, d.interfaces[n]? = some j ∧ d.Successor i j := by
  obtain ⟨i', hi', q, hq, hn⟩ := h
  obtain rfl : i' = i := by simpa [hm] using hi'.symm
  have hlt : n < d.interfaces.length := (List.findIdx?_eq_some_iff_getElem.1 hn).1
  refine ⟨d.interfaces[n], List.getElem?_eq_getElem hlt, q, hq, ?_⟩
  rw [interface?_eq_bind, hn, Option.bind_some, List.getElem?_eq_getElem hlt]

theorem successorPlace_of_successor (hm : d.interfaces[m]? = some i) (h : d.Successor i j) :
    ∃ n, d.interfaces[n]? = some j ∧ d.SuccessorPlace m n := by
  obtain ⟨q, hq, hj⟩ := h
  rw [interface?_eq_bind] at hj
  obtain ⟨n, hn, hnj⟩ := Option.bind_eq_some_iff.1 hj
  exact ⟨n, hnj, i, hm, q, hq, hn⟩

/-- Where each step of `r` is matched by one of `s`, so are steps in a row. -/
theorem transGen_of_matched {α β : Type} {r : α → α → Prop} {s : β → β → Prop}
    {M : α → β → Prop} (hstep : ∀ {a a' b}, M a b → r a a' → ∃ b', M a' b' ∧ s b b') {a a' : α}
    {b : β} (hab : M a b) (h : TransGen r a a') : ∃ b', M a' b' ∧ TransGen s b b' := by
  induction h with
  | single h =>
    obtain ⟨b', hb', hbb'⟩ := hstep hab h
    exact ⟨b', hb', .single hbb'⟩
  | tail _ h ih =>
    obtain ⟨c, hc, hbc⟩ := ih
    obtain ⟨b', hb', hcb'⟩ := hstep hc h
    exact ⟨b', hb', hbc.tail hcb'⟩

/-- Steps from place to place are steps from interface to interface. -/
theorem transGen_successor (hm : d.interfaces[m]? = some i) (h : TransGen d.SuccessorPlace m n) :
    ∃ j, d.interfaces[n]? = some j ∧ TransGen d.Successor i j :=
  transGen_of_matched (M := fun m i => d.interfaces[m]? = some i) successor_of_successorPlace hm h

/-- Equal interfaces have the same successors, so steps from interface to
interface can be taken from any place that holds the first one. -/
theorem transGen_successorPlace (hm : d.interfaces[m]? = some i) (h : TransGen d.Successor i j) :
    ∃ n, d.interfaces[n]? = some j ∧ TransGen d.SuccessorPlace m n :=
  transGen_of_matched (M := fun i m => d.interfaces[m]? = some i) successorPlace_of_successor hm h

/-- A step leads to the first interface of a name, so of equal interfaces
only one is ever led to. -/
theorem place_eq_of_successorPlace {m' n' : Nat} (h : d.SuccessorPlace m n)
    (h' : d.SuccessorPlace m' n') (he : d.interfaces[n]? = d.interfaces[n']?) : n = n' := by
  obtain ⟨_, _, q, _, hn⟩ := h
  obtain ⟨_, _, q', _, hn'⟩ := h'
  obtain ⟨hlt, hq, _⟩ := List.findIdx?_eq_some_iff_getElem.1 hn
  obtain ⟨hlt', hq', _⟩ := List.findIdx?_eq_some_iff_getElem.1 hn'
  have hij : d.interfaces[n] = d.interfaces[n'] := by
    simpa [List.getElem?_eq_getElem hlt, List.getElem?_eq_getElem hlt'] using he
  have hqq : q = q' := by
    have := beq_iff_eq.1 hq
    rw [hij, beq_iff_eq.1 hq'] at this
    exact (Option.some.inj this).symm
  subst hqq
  exact Option.some.inj (hn.symm.trans hn')

/-- Steps that lead from a place to an equal interface go round: the place
they end at is on a circle. -/
theorem transGen_self_of_equal (hm : d.interfaces[m]? = some i) (hn : d.interfaces[n]? = some i)
    (h : TransGen d.SuccessorPlace m n) : TransGen d.SuccessorPlace n n := by
  obtain ⟨j, hj, hij⟩ := transGen_successor hm h
  obtain rfl : i = j := by simpa [hn] using hj
  obtain ⟨n', hn', hnn'⟩ := transGen_successorPlace hn hij
  obtain ⟨_, _, hlast⟩ := TransGen.tail'_iff.1 h
  obtain ⟨_, _, hlast'⟩ := TransGen.tail'_iff.1 hnn'
  have he : n = n' := place_eq_of_successorPlace hlast hlast' (hn.trans hn'.symm)
  exact he ▸ hnn'

/-- An interface extends itself if steps lead from its place to an equal
interface. -/
theorem extendsItself_iff_transGen (hm : d.interfaces[m]? = some i) :
    d.extendsItself i = true ↔
      ∃ n, TransGen d.SuccessorPlace m n ∧ d.interfaces[n]? = some i := by
  rw [extendsItself_iff_mem_closure, mem_closure_iff]
  constructor
  · intro h
    obtain ⟨n, hn, hmn⟩ := transGen_successorPlace hm h
    exact ⟨n, hmn, hn⟩
  · rintro ⟨n, hmn, hn⟩
    obtain ⟨j, hj, hij⟩ := transGen_successor hm hmn
    obtain rfl : i = j := by simpa [hn] using hj
    exact hij

theorem interfaceCycle_eq_nil_iff :
    Check.interfaceCycle d i = [] ↔ ¬ d.extendsItself i = true := by
  rw [Check.interfaceCycle, Check.violatedIf_eq_nil_iff, Bool.not_eq_true]

theorem exists_interface_of_transGen (h : TransGen d.SuccessorPlace m n) :
    ∃ i, d.interfaces[m]? = some i := by
  obtain ⟨_, ⟨i, hi, _⟩, _⟩ := TransGen.head'_iff.1 h
  exact ⟨i, hi⟩

/-- No interface is reported exactly where no steps lead from a place back to
it. -/
theorem interfaceCycles_eq_nil_iff (d : Description) :
    d.interfaces.flatMap (Check.interfaceCycle d) = [] ↔
      ∀ m, ¬ TransGen d.SuccessorPlace m m := by
  simp only [List.flatMap_eq_nil_iff, interfaceCycle_eq_nil_iff]
  constructor
  · intro h m hmm
    obtain ⟨i, hi⟩ := exists_interface_of_transGen hmm
    exact h i (List.mem_of_getElem? hi) ((extendsItself_iff_transGen hi).2 ⟨m, hmm, hi⟩)
  · intro h i hi hself
    obtain ⟨m, hm⟩ := List.mem_iff_getElem?.1 hi
    obtain ⟨n, hmn, hn⟩ := (extendsItself_iff_transGen hm).1 hself
    exact h n (transGen_self_of_equal hm hn hmn)

/-! ## The law -/

/-- An interface is said to extend itself exactly where steps lead from its
place to an interface equal to it, and that is where its closure has it. No
interface is reported exactly where no steps lead from a place back to it. One
that only leads into circles of others is not reported. -/
theorem an_interface_extends_itself_iff_steps_lead_back (d : Description) :
    (∀ m i, d.interfaces[m]? = some i →
      (d.extendsItself i = true ↔
        ∃ n, TransGen d.SuccessorPlace m n ∧ d.interfaces[n]? = some i) ∧
      (d.extendsItself i = true ↔ i ∈ d.closure i) ∧
      ((∀ n, TransGen d.SuccessorPlace m n → TransGen d.SuccessorPlace n n →
          d.interfaces[n]? ≠ some i) →
        Check.interfaceCycle d i = [])) ∧
    (d.interfaces.flatMap (Check.interfaceCycle d) = [] ↔
      ∀ m, ¬ TransGen d.SuccessorPlace m m) := by
  refine ⟨fun m i hm => ⟨?_, ?_, ?_⟩, interfaceCycles_eq_nil_iff d⟩
  · exact extendsItself_iff_transGen hm
  · exact extendsItself_iff_mem_closure
  · intro hother
    rw [interfaceCycle_eq_nil_iff]
    intro hself
    obtain ⟨n, hmn, hn⟩ := (extendsItself_iff_transGen hm).1 hself
    exact hother n hmn (transGen_self_of_equal hm hn hmn) hn

/-- Extends B. -/
def exampleA : Interface := ⟨some ⟨none, "A"⟩, [⟨none, "B"⟩], [], [], []⟩

/-- Extends A. -/
def exampleB : Interface := ⟨some ⟨none, "B"⟩, [⟨none, "A"⟩], [], [], []⟩

/-- Extends B, and nothing extends it. -/
def exampleC : Interface := ⟨some ⟨none, "C"⟩, [⟨none, "B"⟩], [], [], []⟩

/-- A circle of two, an interface that leads into it, and the first interface
once more. -/
def exampleCircle : Description :=
  ⟨none, [exampleA, exampleB, exampleC, exampleA], [], [], [], []⟩

theorem exampleCircle_successorPlace (h : exampleCircle.SuccessorPlace m n) : n = 0 ∨ n = 1 := by
  obtain ⟨i, hi, q, hq, hn⟩ := h
  have hi' : i ∈ exampleCircle.interfaces := List.mem_of_getElem? hi
  have hnames : ∀ i ∈ exampleCircle.interfaces, ∀ q ∈ i.extended,
      exampleCircle.interfaceIndex? q = some 0 ∨ exampleCircle.interfaceIndex? q = some 1 := by
    decide
  rcases hnames i hi' q hq with h | h
  · exact Or.inl (Option.some.inj (hn.symm.trans h))
  · exact Or.inr (Option.some.inj (hn.symm.trans h))

/-- No steps lead to place 3, and still the interface there extends itself:
they lead to place 0, where the same one is. The one at place 2 is on no
circle. -/
theorem the_second_of_two_equal_interfaces_extends_itself :
    exampleCircle.interfaces[3]? = some exampleA ∧ exampleCircle.extendsItself exampleA = true ∧
      exampleCircle.interfaces[2]? = some exampleC ∧
      Check.interfaceCycle exampleCircle exampleC = [] := by
  obtain ⟨hall, _⟩ := an_interface_extends_itself_iff_steps_lead_back exampleCircle
  have h31 : exampleCircle.SuccessorPlace 3 1 := ⟨exampleA, rfl, ⟨none, "B"⟩, by decide, by decide⟩
  have h10 : exampleCircle.SuccessorPlace 1 0 := ⟨exampleB, rfl, ⟨none, "A"⟩, by decide, by decide⟩
  refine ⟨rfl, ?_, rfl, ?_⟩
  · exact (hall 3 exampleA rfl).1.2 ⟨0, (TransGen.single h31).tail h10, rfl⟩
  · refine (hall 2 exampleC rfl).2.2 ?_
    intro n hn _
    obtain ⟨_, _, hlast⟩ := TransGen.tail'_iff.1 hn
    rcases exampleCircle_successorPlace hlast with rfl | rfl
    · decide
    · decide

end Wsdl.Component.Description
