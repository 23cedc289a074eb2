-- What a binding is told to bind. The operations of its interface are told apart by
-- their places, and a name leads to the first of them that has it. So a place is
-- bound if its operation is the first of its name, and something refers to that
-- name. Each other place is reported once, in order, and no more than that.
import Wsdl.Proofs.BoundOperations
import Wsdl.Proofs.Enumeration
import Wsdl.Proofs.Validators

namespace Wsdl.Component

variable {d : Description} {b : Binding} {i : Interface} {k : Nat}

/-! ## Places that are overlooked -/

/-- At place `k` is an operation that nothing in the binding leads to: it has no name,
or an earlier one has its name, or no binding operation refers to that. -/
def Binding.Overlooks (b : Binding) (ops : List Operation) (k : Nat) (op : Operation) : Prop :=
  ops[k]? = some op ∧
    (op.name = none ∨ (∃ j < k, ∃ op', ops[j]? = some op' ∧ op'.name = op.name) ∨
      ∀ o ∈ b.operations, o.operation ≠ op.name)

theorem Description.operationIndex?_eq_some_iff_of_getElem? {q : QName} {op : Operation}
    (hop : (d.operationsOf i)[k]? = some op) :
    d.operationIndex? i q = some k ↔ op.name = some q ∧
      ∀ j < k, ∀ op', (d.operationsOf i)[j]? = some op' → op'.name ≠ some q := by
  obtain ⟨hk, rfl⟩ := List.getElem?_eq_some_iff.1 hop
  rw [Description.operationIndex?_eq_some_iff]
  constructor
  · rintro ⟨_, hname, hfirst⟩
    refine ⟨hname, fun j hj op' hop' => ?_⟩
    obtain ⟨_, rfl⟩ := List.getElem?_eq_some_iff.1 hop'
    exact hfirst j hj
  · rintro ⟨hname, hfirst⟩
    exact ⟨hk, hname, fun j hj => hfirst j hj _ (List.getElem?_eq_getElem (hj.trans hk))⟩

theorem mem_boundPlaces_iff (hi : b.interfaceIn d = some i) :
    k ∈ Check.boundPlaces d b ↔
      ∃ o ∈ b.operations, ∃ q, o.operation = some q ∧ d.operationIndex? i q = some k := by
  simp only [Check.boundPlaces, List.mem_filterMap, BindingOperation.indexIn_eq_some_iff hi]

/-- Only the first operation of a name is ever bound, and only where something
refers to the name. -/
theorem not_mem_boundPlaces_iff (hi : b.interfaceIn d = some i) {op : Operation}
    (hop : (d.operationsOf i)[k]? = some op) :
    k ∉ Check.boundPlaces d b ↔ b.Overlooks (d.operationsOf i) k op := by
  rw [mem_boundPlaces_iff hi]
  constructor
  · intro hnot
    refine ⟨hop, ?_⟩
    by_cases hearlier : ∃ j < k, ∃ op', (d.operationsOf i)[j]? = some op' ∧ op'.name = op.name
    · exact Or.inr (Or.inl hearlier)
    cases hname : op.name with
    | none => exact Or.inl rfl
    | some q =>
      refine Or.inr (Or.inr fun o ho hq => hnot ⟨o, ho, q, hq, ?_⟩)
      refine (Description.operationIndex?_eq_some_iff_of_getElem? hop).2 ⟨hname, ?_⟩
      intro j hj op' hop' hname'
      exact hearlier ⟨j, hj, op', hop', hname'.trans hname.symm⟩
  · rintro ⟨-, hwhy⟩ ⟨o, ho, q, hq, hqk⟩
    obtain ⟨hname, hfirst⟩ := (Description.operationIndex?_eq_some_iff_of_getElem? hop).1 hqk
    rw [hname] at hwhy
    rcases hwhy with hnone | ⟨j, hj, op', hop', hsame⟩ | hunbound
    · cases hnone
    · exact hfirst j hj op' hop' hsame
    · exact hunbound o ho hq

/-! ## What is reported -/

/-- The places of a binding's interface that it overlooks, with the report that each of
them gets. -/
theorem enumerates_bindingCompleteness (hi : b.interfaceIn d = some i) :
    Enumerates (· < ·) (fun k v => ∃ op, b.Overlooks (d.operationsOf i) k op ∧
        v = Rule.bindingIsComplete.violation [b.text, op.text])
      (Check.bindingCompleteness d b) := by
  rw [Check.bindingCompleteness, hi]
  have hall := ((enumerates_getElem? (d.operationsOf i).zipIdx).filter
    fun x => !(Check.boundPlaces d b).contains x.2).map fun x =>
      Rule.bindingIsComplete.violation [b.text, x.1.text]
  refine hall.congr fun k v => ?_
  simp only [List.getElem?_zipIdx, Option.map_eq_some_iff, Nat.zero_add, Bool.not_eq_true',
    List.contains_eq_mem, decide_eq_false_iff_not]
  constructor
  · rintro ⟨_, ⟨⟨op, hop, rfl⟩, hk⟩, rfl⟩
    exact ⟨op, (not_mem_boundPlaces_iff hi hop).1 hk, rfl⟩
  · rintro ⟨op, hover, rfl⟩
    exact ⟨(op, k), ⟨⟨op, hover.1, rfl⟩, (not_mem_boundPlaces_iff hi hover.1).2 hover⟩, rfl⟩

/-! ## The law -/

open Check (Inspection)

/-- Where the interface of a binding is not known, nothing is asked of it. Otherwise
it is told of each operation of the interface that it overlooks, in order and once,
and of nothing else, and passes if there is none. So an operation that an earlier
one of the same name hides is reported, whatever the binding refers to. -/
theorem a_binding_is_told_of_each_operation_that_it_overlooks (d : Description) (b : Binding) :
    ((∀ q, b.interface = some q → d.interface? q = none) →
      (Inspection.bindingCompleteness d b).reports = [] ∧
        (Inspection.bindingCompleteness d b).holds = true) ∧
    ∀ q i, b.interface = some q → d.interface? q = some i →
      Enumerates (· < ·) (fun k v => ∃ op, b.Overlooks (d.operationsOf i) k op ∧
          v = Rule.bindingIsComplete.violation [b.text, op.text])
        (Inspection.bindingCompleteness d b).reports ∧
      ((Inspection.bindingCompleteness d b).holds = true ↔
        ∀ k op, ¬ b.Overlooks (d.operationsOf i) k op) ∧
      ∀ (j k : Nat) (op op' : Operation), j < k → (d.operationsOf i)[j]? = some op →
        (d.operationsOf i)[k]? = some op' → op.name = op'.name →
        Rule.bindingIsComplete.violation [b.text, op'.text]
          ∈ (Inspection.bindingCompleteness d b).reports := by
  have htells := Inspection.tells_bindingCompleteness d b
  rw [htells.holds_iff, htells.reports_eq]
  refine ⟨fun hnone => ?_, fun q i hq hqi => ?_⟩
  · have hi : b.interfaceIn d = none := Option.bind_eq_none_iff.2 hnone
    have hnil : Check.bindingCompleteness d b = [] := by rw [Check.bindingCompleteness, hi]
    exact ⟨hnil, hnil⟩
  · have hi : b.interfaceIn d = some i := Option.bind_eq_some_iff.2 ⟨q, hq, hqi⟩
    have hall := enumerates_bindingCompleteness hi
    refine ⟨hall, ?_, fun j k op op' hjk hop hop' hname => ?_⟩
    · rw [hall.eq_nil_iff]
      constructor
      · intro h k op hover
        exact h k _ ⟨op, hover, rfl⟩
      · rintro h k _ ⟨op, hover, -⟩
        exact h k op hover
    · exact hall.mem_iff.2 ⟨k, op', ⟨hop', Or.inr (Or.inl ⟨j, hjk, op, hop, hname⟩)⟩, rfl⟩

def exampleQuestion : Operation := ⟨some ⟨none, "ask"⟩, none, [], [], []⟩

def exampleUnnamed : Operation := ⟨none, none, [], [], []⟩

/-- Declares an operation that it inherits as well, and one that has no name. -/
def exampleHiding : Interface :=
  ⟨some ⟨none, "Hiding"⟩, [⟨none, "Hidden"⟩], [], [], [exampleQuestion, exampleUnnamed]⟩

def exampleHidden : Interface := ⟨some ⟨none, "Hidden"⟩, [], [], [], [exampleQuestion]⟩

/-- Binds the name that both have. -/
def exampleAsker : Binding :=
  ⟨some ⟨none, "Asker"⟩, some ⟨none, "Hiding"⟩, none, [], [⟨some ⟨none, "ask"⟩, [], []⟩]⟩

def exampleHideout : Description :=
  ⟨none, [exampleHiding, exampleHidden], [exampleAsker], [], [], []⟩

/-- The one without a name is reported, and so is the inherited one, though its name
is bound. -/
theorem the_hidden_operation_is_reported :
    exampleAsker.interface = some ⟨none, "Hiding"⟩ ∧
      exampleHideout.interface? ⟨none, "Hiding"⟩ = some exampleHiding ∧
      (Inspection.bindingCompleteness exampleHideout exampleAsker).holds = false ∧
      (Check.bindingCompleteness exampleHideout exampleAsker).length = 2 ∧
      Rule.bindingIsComplete.violation ["Asker", "ask"]
        ∈ (Inspection.bindingCompleteness exampleHideout exampleAsker).reports := by
  have hq : exampleAsker.interface = some ⟨none, "Hiding"⟩ := rfl
  have hi : exampleHideout.interface? ⟨none, "Hiding"⟩ = some exampleHiding := by decide
  obtain ⟨_, hholds, hhidden⟩ :=
    (a_binding_is_told_of_each_operation_that_it_overlooks exampleHideout exampleAsker).2 _ _ hq hi
  have hops : exampleHideout.operationsOf exampleHiding
      = [exampleQuestion, exampleUnnamed, exampleQuestion] := by cbv
  rw [hops] at hholds hhidden
  refine ⟨hq, hi, ?_, by cbv, hhidden 0 2 exampleQuestion _ (by decide) rfl rfl rfl⟩
  rw [← Bool.not_eq_true, hholds]
  exact fun h => h 1 exampleUnnamed ⟨rfl, Or.inl rfl⟩

end Wsdl.Component
