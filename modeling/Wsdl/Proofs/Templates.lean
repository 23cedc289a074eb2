-- What the violations of a description carry, and what the messages for them
-- have room for. The table has one template for each rule. A template shows its
-- gaps in order, none of them twice, and every violation that is found has one
-- argument for each gap.
import Mathlib.Data.List.Forall2
import Mathlib.Data.List.Nodup
import Wsdl.Check.Assertion
import Wsdl.Check.Document
import Wsdl.Dictionary
import Wsdl.Proofs.Violations

namespace Wsdl

/-! ## Rules by their ids -/

namespace Rule

/-- The rule with an id. -/
def ofId? (s : String) : Option Rule := all.find? fun r => r.id == s

theorem ofId?_id (r : Rule) : ofId? r.id = some r := by
  cases r <;> decide

theorem id_injective : Function.Injective Rule.id := fun r s h =>
  Option.some.inj (by rw [← ofId?_id r, h, ofId?_id])

theorem nodup_all : all.Nodup := by decide

/-- The retrieval of the target namespace is the one rule that is not grave. -/
theorem severity_eq (r : Rule) :
    r.severity = if r.id = "Description-1002" then .warning else .error := by
  cases r <;> decide

end Rule

/-- Each entry of the one list has a partner in the other. -/
theorem exists_of_forall₂ {α β : Type} {R : α → β → Prop} {xs : List α} {ys : List β}
    (h : List.Forall₂ R xs ys) : ∀ x ∈ xs, ∃ y ∈ ys, R x y := by
  induction h with
  | nil => simp
  | cons hxy _ ih =>
    refine List.forall_mem_cons.2 ⟨⟨_, List.mem_cons_self, hxy⟩, fun x hx => ?_⟩
    obtain ⟨y, hy, hR⟩ := ih x hx
    exact ⟨y, List.mem_cons_of_mem _ hy, hR⟩

/-! ## The gaps of a template -/

namespace Message

/-- The numbers in braces, from left to right. Behind an open brace, `digits`
are those since the brace. -/
def gapsFrom (digits : Option (List Char)) : List Char → List Nat
  | [] => []
  | c :: cs =>
    if c = '\x7b' then gapsFrom (some []) cs
    else
      match digits with
      | none => gapsFrom none cs
      | some ds =>
        if c.isDigit then gapsFrom (some (ds ++ [c])) cs
        else if c = '\x7d' ∧ ds ≠ [] then Nat.ofDigitChars 10 ds 0 :: gapsFrom none cs
        else gapsFrom none cs

/-- The gaps that a text shows, by their numbers. -/
def gapsIn (s : String) : List Nat := gapsFrom none s.toList

theorem gapsFrom_append_of_not_mem {p : List Char} (hp : '\x7b' ∉ p) (cs : List Char) :
    gapsFrom none (p ++ cs) = gapsFrom none cs := by
  induction p with
  | nil => rfl
  | cons c p ih =>
    have hc : c ≠ '\x7b' := (List.ne_of_not_mem_cons hp).symm
    rw [List.cons_append, gapsFrom, if_neg hc]
    exact ih (List.not_mem_of_not_mem_cons hp)

/-- Digits up to the closing brace are one number. -/
theorem gapsFrom_digits (ds : List Char) {es : List Char} (hes : ∀ c ∈ es, c.isDigit = true)
    (hne : ds ++ es ≠ []) (cs : List Char) :
    gapsFrom (some ds) (es ++ '\x7d' :: cs)
      = Nat.ofDigitChars 10 (ds ++ es) 0 :: gapsFrom none cs := by
  induction es generalizing ds with
  | nil =>
    rw [List.append_nil] at hne ⊢
    simp [gapsFrom, hne]
  | cons c es ih =>
    have hc : c.isDigit = true := hes c List.mem_cons_self
    have hbrace : c ≠ '\x7b' := by
      rintro rfl
      exact absurd hc (by decide)
    have hrest := ih (ds ++ [c]) (fun x hx => hes x (List.mem_cons_of_mem _ hx)) (by simp)
    rw [List.append_assoc, List.singleton_append] at hrest
    simpa [gapsFrom, hbrace, hc] using hrest

theorem gapsFrom_gap (i : Nat) (cs : List Char) :
    gapsFrom none (gap i ++ cs) = i :: gapsFrom none cs := by
  have hgap : gap i ++ cs = '\x7b' :: (Nat.toDigits 10 i ++ '\x7d' :: cs) := by
    simp [gap]
  have hdigits : ∀ c ∈ Nat.toDigits 10 i, c.isDigit = true :=
    fun c hc => Nat.isDigit_of_mem_toDigits (by decide) (by decide) hc
  have hnumber := gapsFrom_digits [] hdigits Nat.toDigits_ne_nil cs
  rw [hgap, gapsFrom, if_pos rfl, hnumber, List.nil_append, Nat.ofDigitChars_ten_toDigits]

/-! ## Pieces -/

/-- Whether a character may stand in a mark. -/
def isOfMark (c : Char) : Bool := c == '\x7b' || c == '\x7d' || c.isDigit

/-- A piece of a template: it is not empty, and no character of a mark is
in it. -/
def IsSolid (p : List Char) : Prop := p ≠ [] ∧ ∀ c ∈ p, isOfMark c = false

theorem IsSolid.brace_not_mem {p : List Char} (h : IsSolid p) : '\x7b' ∉ p := fun hmem =>
  absurd (h.2 _ hmem) (by decide)

/-- The longest runs of characters that are of no mark. -/
def piecesOf (cs : List Char) : List (List Char) :=
  (Text.splitWhere isOfMark cs).filter (! ·.isEmpty)

theorem not_of_mem_splitWhere {p : Char → Bool} {cs : List Char} :
    ∀ q ∈ Text.splitWhere p cs, ∀ c ∈ q, p c = false := by
  fun_induction Text.splitWhere p cs with
  | case1 => simp
  | case2 c cs hc ih => exact List.forall_mem_cons.2 ⟨List.forall_mem_nil _, ih⟩
  | case3 c cs hc hsplit ih => simpa using hc
  | case4 c cs hc w ws hsplit ih =>
    rw [hsplit, List.forall_mem_cons] at ih
    exact List.forall_mem_cons.2 ⟨List.forall_mem_cons.2 ⟨by simpa using hc, ih.1⟩, ih.2⟩

theorem isSolid_of_mem_piecesOf {cs p : List Char} (h : p ∈ piecesOf cs) : IsSolid p := by
  obtain ⟨hp, hne⟩ := List.mem_filter.1 h
  exact ⟨by simpa using hne, not_of_mem_splitWhere p hp⟩

/-- The pieces with something between them, told by its number. -/
def weave (between : Nat → List Char) (i : Nat) : List (List Char) → List Char
  | [] => []
  | [p] => p
  | p :: ps => p ++ between i ++ weave between (i + 1) ps

/-- Pieces without braces show the gaps that were put between them. -/
theorem gapsFrom_weave_gap {ps : List (List Char)} (hps : ∀ p ∈ ps, IsSolid p) (i : Nat) :
    gapsFrom none (weave gap i ps) = List.range' i (ps.length - 1) := by
  fun_induction weave gap i ps with
  | case1 i => rfl
  | case2 i p =>
    have hp := gapsFrom_append_of_not_mem (hps p List.mem_cons_self).brace_not_mem []
    rwa [List.append_nil] at hp
  | case3 i p ps hne ih =>
    have hlength : (p :: ps).length - 1 = (ps.length - 1) + 1 := by
      have : 0 < ps.length := List.length_pos_iff.2 hne
      simp only [List.length_cons]
      omega
    rw [List.append_assoc, gapsFrom_append_of_not_mem (hps p List.mem_cons_self).brace_not_mem,
      gapsFrom_gap, ih fun q hq => hps q (List.mem_cons_of_mem _ hq), hlength, List.range'_succ]

/-! ## The templates -/

/-- A template with `n` gaps: between its pieces stand the marks, numbered in
order. -/
def HasGaps (n : Nat) (t : String) : Prop :=
  ∃ ps, (∀ p ∈ ps, IsSolid p) ∧ ps.length = n + 1 ∧ t.toList = weave gap 0 ps

/-- The pieces are found by taking the marks out. -/
theorem hasGaps_ofList {n : Nat} {cs : List Char}
    (h : (piecesOf cs).length = n + 1 ∧ cs = weave gap 0 (piecesOf cs)) :
    HasGaps n (String.ofList cs) :=
  ⟨piecesOf cs, fun _ => isSolid_of_mem_piecesOf, h.1, by rw [String.toList_ofList]; exact h.2⟩

theorem HasGaps.gapsIn_eq {n : Nat} {t : String} (h : HasGaps n t) : gapsIn t = List.range n := by
  obtain ⟨ps, hps, hlength, ht⟩ := h
  rw [gapsIn, ht, gapsFrom_weave_gap hps, hlength, Nat.add_sub_cancel, List.range_eq_range']

/-- The table has a template for each rule, in order. It has as many gaps as a violation
of the rule has arguments. -/
theorem forall₂_templates :
    List.Forall₂ (fun r x => x.1 = r.id ∧ HasGaps r.arity x.2) Rule.all templates := by
  repeat refine .cons ⟨rfl, hasGaps_ofList (by decide)⟩ ?_
  exact .nil

theorem knownIds_eq : knownIds = Rule.all.map Rule.id := by
  have hids : List.Forall₂ (· = ·) (Rule.all.map Rule.id) knownIds := by
    rw [knownIds, List.forall₂_map_left_iff, List.forall₂_map_right_iff]
    exact forall₂_templates.imp fun _ _ h => h.1.symm
  rw [List.forall₂_eq_eq_eq] at hids
  exact hids.symm

/-- No id has two templates. -/
theorem template?_eq_some_iff {id t : String} : template? id = some t ↔ (id, t) ∈ templates := by
  have hnodup : (templates.map (·.1)).Nodup := by
    have hall : (Rule.all.map Rule.id).Nodup := List.Nodup.map Rule.id_injective Rule.nodup_all
    rwa [← knownIds_eq] at hall
  exact Dictionary.lookup_eq_some_iff_mem hnodup

theorem exists_template (r : Rule) : ∃ t, template? r.id = some t ∧ HasGaps r.arity t := by
  obtain ⟨⟨id, t⟩, ht, rfl, hgaps⟩ := exists_of_forall₂ forall₂_templates r r.mem_all
  exact ⟨t, template?_eq_some_iff.2 ht, hgaps⟩

/-- Only the ids of rules have templates. -/
theorem hasGaps_of_template? {id t : String} (h : template? id = some t) :
    ∃ r : Rule, id = r.id ∧ HasGaps r.arity t := by
  have hid : id ∈ Rule.all.map Rule.id := by
    rw [← knownIds_eq]
    exact List.mem_map_of_mem (template?_eq_some_iff.1 h)
  obtain ⟨r, -, rfl⟩ := List.mem_map.1 hid
  obtain ⟨t', ht', hgaps⟩ := exists_template r
  obtain rfl := Option.some.inj (h.symm.trans ht')
  exact ⟨r, rfl, hgaps⟩

end Message

namespace Check

/-! ## The built-in assertions -/

theorem exists_of_mem_actions_ofRule {α : Type} {r : Rule} {view : Target → Except Error α}
    {violations : Resolver → Component.Description → α → List Violation} {resolver : Resolver}
    {t : Target} {count : Summary} {v : Violation}
    (h : Action.report v ∈ ((Assertion.ofRule r view violations).run resolver t count).actions) :
    ∃ x, view t = .ok x ∧ v ∈ violations resolver t.description x := by
  simp only [Assertion.ofRule] at h
  split at h
  · next x hx =>
    obtain ⟨u, hu, huv⟩ := List.mem_map.1 h
    obtain rfl := Action.report.inj huv
    exact ⟨x, hx, hu⟩
  · cases h

/-- Whatever a built-in assertion reports, on any target, is a violation of a
rule. -/
theorem among_builtIn {k : NodeKind} {a : Assertion} (ha : a ∈ builtIn k) {resolver : Resolver}
    {t : Target} {count : Summary} {v : Violation}
    (h : Action.report v ∈ (a.run resolver t count).actions) : ∃ r ∈ Rule.all, IsOf r v := by
  cases k with
  | descriptionElement =>
    simp only [builtIn, List.mem_cons, List.not_mem_nil, or_false] at ha
    rcases ha with rfl | rfl
    · obtain ⟨w, _, hv⟩ := exists_of_mem_actions_ofRule h
      exact among_map (Rule.mem_all _) (fun _ => rfl) v hv
    · obtain ⟨w, _, hv⟩ := exists_of_mem_actions_ofRule h
      exact among_map (Rule.mem_all _) (fun _ => rfl) v hv
  | description =>
    obtain rfl := List.mem_singleton.1 ha
    obtain ⟨d, _, hv⟩ := exists_of_mem_actions_ofRule h
    exact among_firstRepeat (Rule.mem_all _) rfl v hv
  | interface =>
    obtain rfl := List.mem_singleton.1 ha
    obtain ⟨i, _, hv⟩ := exists_of_mem_actions_ofRule h
    exact among_violatedIf (Rule.mem_all _) rfl v hv
  | _ => cases ha

/-! ## The law -/

/-- Every violation that the checks of a description find, and every one that a
built-in assertion reports on any target, has a template under its id. The gaps
of the template are numbered from nought in order, and there are as many as the
violation has arguments. It is an error, unless it says that the target
namespace leads to nothing. -/
theorem every_violation_fills_the_gaps_of_its_template (resolver : Resolver)
    (w : Written.Description) (d : Component.Description) {v : Violation}
    (h : v ∈ document w ∨ v ∈ component d ∨
      ∃ k, ∃ a ∈ builtIn k, ∃ t count, .report v ∈ (a.run resolver t count).actions) :
    ∃ template, Message.template? v.id = some template ∧
      Message.gapsIn template = List.range v.args.length ∧
      v.severity = if v.id = "Description-1002" then .warning else .error := by
  obtain ⟨r, hr⟩ : ∃ r, IsOf r v := by
    rcases h with h | h | ⟨k, a, ha, t, count, h⟩
    · obtain ⟨r, _, hr⟩ := among_document w v h
      exact ⟨r, hr⟩
    · obtain ⟨r, _, hr⟩ := among_component d v h
      exact ⟨r, hr⟩
    · obtain ⟨r, _, hr⟩ := among_builtIn ha h
      exact ⟨r, hr⟩
  obtain ⟨template, htemplate, hgaps⟩ := Message.exists_template r
  refine ⟨template, ?_, ?_, ?_⟩
  · rw [hr.id_eq, htemplate]
  · rw [hgaps.gapsIn_eq, hr.length_args]
  · rw [hr.severity_eq, hr.id_eq, r.severity_eq]

/-- An endpoint whose binding is for another interface than that of its
service. -/
def exampleMismatch : Component.Description :=
  ⟨none, [⟨some ⟨none, "A"⟩, [], [], [], []⟩, ⟨some ⟨none, "B"⟩, [], [], [], []⟩],
    [⟨some ⟨none, "Bound"⟩, some ⟨none, "A"⟩, none, [], []⟩],
    [⟨some ⟨none, "S"⟩, some ⟨none, "B"⟩, [⟨some "E", some ⟨none, "Bound"⟩, none⟩]⟩], [], []⟩

theorem the_mismatch_fills_four_gaps :
    Rule.endpointMatchesService.violation ["E", "A", "S", "B"] ∈ component exampleMismatch ∧
      ∃ template, Message.template? "Endpoint-1062" = some template ∧
        Message.gapsIn template = [0, 1, 2, 3] := by
  have hmem : Rule.endpointMatchesService.violation ["E", "A", "S", "B"]
      ∈ component exampleMismatch :=
    List.mem_append_left _ (List.mem_append_right _ (by decide))
  obtain ⟨template, htemplate, hgaps, _⟩ := every_violation_fills_the_gaps_of_its_template
    Resolver.standard ⟨none, none, [], [], none, [], [], [], .nowhere⟩ exampleMismatch
    (.inr (.inl hmem))
  exact ⟨hmem, template, htemplate, hgaps⟩

end Check

end Wsdl
