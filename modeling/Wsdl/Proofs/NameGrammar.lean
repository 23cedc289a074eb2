-- Which texts are NCNames, as Namespaces in XML has it, and which of them pass
-- for one. What passes is an NCName. But the ranges of name characters are
-- followed no further than U+1FFF, and the combining marks are left out, so the
-- names of many scripts are refused.
import Mathlib.Logic.Basic
import Wsdl.Written.Read

namespace Wsdl

/-! ## The grammar -/

/-- Both ends of a range belong to it. -/
def IsInRanges (rs : List (Nat × Nat)) (c : Char) : Prop :=
  ∃ r ∈ rs, r.1 ≤ c.toNat ∧ c.toNat ≤ r.2

instance (rs : List (Nat × Nat)) (c : Char) : Decidable (IsInRanges rs c) :=
  inferInstanceAs (Decidable (∃ r ∈ rs, r.1 ≤ c.toNat ∧ c.toNat ≤ r.2))

/-- NameStartChar of XML, without the colon. -/
def startRanges : List (Nat × Nat) :=
  [(0x41, 0x5A), (0x5F, 0x5F), (0x61, 0x7A), (0xC0, 0xD6), (0xD8, 0xF6), (0xF8, 0x2FF),
    (0x370, 0x37D), (0x37F, 0x1FFF), (0x200C, 0x200D), (0x2070, 0x218F), (0x2C00, 0x2FEF),
    (0x3001, 0xD7FF), (0xF900, 0xFDCF), (0xFDF0, 0xFFFD), (0x10000, 0xEFFFF)]

/-- NameChar has these besides: hyphen, point, digits, the middle dot, combining
marks and the undertie. -/
def furtherRanges : List (Nat × Nat) :=
  [(0x2D, 0x2E), (0x30, 0x39), (0xB7, 0xB7), (0x300, 0x36F), (0x203F, 0x2040)]

def IsNameStartChar (c : Char) : Prop := IsInRanges startRanges c

def IsNameChar (c : Char) : Prop := IsNameStartChar c ∨ IsInRanges furtherRanges c

instance (c : Char) : Decidable (IsNameChar c) :=
  inferInstanceAs (Decidable (IsInRanges startRanges c ∨ IsInRanges furtherRanges c))

/-- A name starts with one of the characters for that, and any name character
may follow. -/
inductive NCName : List Char → Prop
  | start {c : Char} : IsNameStartChar c → NCName [c]
  | append {cs : List Char} {c : Char} : NCName cs → IsNameChar c → NCName (cs ++ [c])

theorem NCName.append_all {cs ds : List Char} (h : NCName cs) (hds : ∀ c ∈ ds, IsNameChar c) :
    NCName (cs ++ ds) := by
  induction ds generalizing cs with
  | nil => simpa using h
  | cons d ds ih =>
    have hd : NCName (cs ++ [d]) := h.append (hds d List.mem_cons_self)
    simpa using ih hd fun c hc => hds c (List.mem_cons_of_mem d hc)

theorem ncName_iff {cs : List Char} :
    NCName cs ↔ ∃ c ds, cs = c :: ds ∧ IsNameStartChar c ∧ ∀ d ∈ ds, IsNameChar d := by
  constructor
  · intro h
    induction h with
    | @start c hc => exact ⟨c, [], rfl, hc, by simp⟩
    | @append _ a _ ha ih =>
      obtain ⟨c, ds, rfl, hc, hds⟩ := ih
      exact ⟨c, ds ++ [a], rfl, hc, List.forall_mem_append.2 ⟨hds, by simpa using ha⟩⟩
  · rintro ⟨c, ds, rfl, hc, hds⟩
    exact (NCName.start hc).append_all hds

/-- A name holds nothing but name characters. -/
theorem NCName.not_mem {cs : List Char} {c : Char} (h : NCName cs) (hc : ¬ IsNameChar c) :
    c ∉ cs := by
  induction h with
  | start hd =>
    rw [List.mem_singleton]
    rintro rfl
    exact hc (.inl hd)
  | append _ hd ih =>
    rw [List.mem_append, List.mem_singleton, not_or]
    refine ⟨ih, ?_⟩
    rintro rfl
    exact hc hd

theorem not_ncName_nil : ¬ NCName [] := by simp [ncName_iff]

theorem ncName_cons_iff {c : Char} {cs : List Char} :
    NCName (c :: cs) ↔ IsNameStartChar c ∧ ∀ d ∈ cs, IsNameChar d := by
  rw [ncName_iff]
  constructor
  · rintro ⟨_, _, h, hstart, hrest⟩
    obtain ⟨rfl, rfl⟩ := List.cons.inj h
    exact ⟨hstart, hrest⟩
  · rintro ⟨hstart, hrest⟩
    exact ⟨c, cs, rfl, hstart, hrest⟩

/-! ## What is passed over -/

/-- The combining marks, and everything after Greek Extended. -/
def IsPassedOver (c : Char) : Prop := (0x300 ≤ c.toNat ∧ c.toNat ≤ 0x36F) ∨ 0x1FFF < c.toNat

theorem isNameStart_iff {c : Char} :
    isNameStart c = true ↔ IsNameStartChar c ∧ ¬ IsPassedOver c := by
  simp only [isNameStart, IsNameStartChar, IsInRanges, startRanges, IsPassedOver, Bool.or_eq_true,
    Bool.and_eq_true, decide_eq_true_eq, beq_iff_eq, List.mem_cons, List.not_mem_nil, or_false,
    exists_eq_or_imp, exists_eq_left]
  omega

theorem isNameRest_iff {c : Char} : isNameRest c = true ↔ IsNameChar c ∧ ¬ IsPassedOver c := by
  have hhyphen : c = '-' ↔ c.toNat = 0x2D := ⟨fun h => h ▸ rfl, fun h => Char.toNat_inj.1 h⟩
  have hpoint : c = '.' ↔ c.toNat = 0x2E := ⟨fun h => h ▸ rfl, fun h => Char.toNat_inj.1 h⟩
  simp only [isNameRest, Bool.or_eq_true, isNameStart_iff, IsNameChar, IsInRanges, furtherRanges,
    IsPassedOver, Bool.and_eq_true, decide_eq_true_eq, beq_iff_eq, hhyphen, hpoint, List.mem_cons,
    List.not_mem_nil, or_false, exists_eq_or_imp, exists_eq_left]
  by_cases hc : IsNameStartChar c
  · simp only [hc, true_and, true_or]
    omega
  · simp only [hc, false_and, false_or]
    omega

theorem isNCName_iff {s : String} :
    isNCName s = true ↔ NCName s.toList ∧ ∀ c ∈ s.toList, ¬ IsPassedOver c := by
  unfold isNCName
  cases s.toList with
  | nil => simp [isNCNameChars, not_ncName_nil]
  | cons c cs =>
    simp only [isNCNameChars, Bool.and_eq_true, List.all_eq_true, isNameStart_iff, isNameRest_iff,
      ncName_cons_iff, List.forall_mem_cons, forall_and]
    exact and_and_and_comm

/-! ## Names that are read -/

section

open Written

variable {base : Option String} {e : Xml.Element} {name v : String}

theorem requiredNCName_of_some (h : e.attribute? name = some v) :
    requiredNCName base e name
      = if isNCName v then .ok v else .error (problem base e (.notNCName v)) := by
  rw [requiredNCName, required, h]
  rfl

theorem requiredNCName_of_none (h : e.attribute? name = none) :
    requiredNCName base e name = .error (problem base e (.missingAttribute name)) := by
  rw [requiredNCName, required, h]
  rfl

theorem requiredNCName_eq_ok_iff :
    requiredNCName base e name = .ok v ↔ e.attribute? name = some v ∧ isNCName v = true := by
  cases h : e.attribute? name with
  | none => simp [requiredNCName_of_none h]
  | some w =>
    rw [requiredNCName_of_some h]
    by_cases hw : isNCName w = true
    · simp only [hw, if_true, Except.ok.injEq, Option.some.injEq]
      exact ⟨fun h => ⟨h, h ▸ hw⟩, And.left⟩
    · simp only [hw, Bool.false_eq_true, if_false, reduceCtorEq, Option.some.injEq, false_iff]
      rintro ⟨rfl, hv⟩
      exact hw hv

theorem requiredNCName_eq_error_iff :
    requiredNCName base e name = .error (problem base e (.notNCName v)) ↔
      e.attribute? name = some v ∧ isNCName v = false := by
  cases h : e.attribute? name with
  | none => simp [requiredNCName_of_none h, problem]
  | some w =>
    rw [requiredNCName_of_some h]
    by_cases hw : isNCName w = true
    · simp only [hw, if_true, reduceCtorEq, Option.some.injEq, false_iff]
      rintro ⟨rfl, hv⟩
      simp [hw] at hv
    · simp only [hw, Bool.false_eq_true, if_false, problem, Except.error.injEq,
        Error.document.injEq, ReadProblem.notNCName.injEq, and_true, Option.some.injEq]
      exact ⟨fun h => ⟨h, h ▸ Bool.eq_false_iff.2 hw⟩, And.left⟩

end

/-! ## The law -/

/-- A text passes for an NCName just if it is one and holds nothing that is passed
over, and that is how names are read: one that passes is taken as it is written,
and any other is refused, also where it is an NCName. -/
theorem names_pass_iff_they_are_ncnames_without_what_is_passed_over (s : String) :
    (isNCName s = true ↔ NCName s.toList ∧ ∀ c ∈ s.toList, ¬ IsPassedOver c) ∧
    ∀ base e name,
      (Written.requiredNCName base e name = .ok s ↔
        e.attribute? name = some s ∧ NCName s.toList ∧ ∀ c ∈ s.toList, ¬ IsPassedOver c) ∧
      (Written.requiredNCName base e name = .error (Written.problem base e (.notNCName s)) ↔
        e.attribute? name = some s ∧
          (NCName s.toList → ∃ c ∈ s.toList, IsPassedOver c)) := by
  refine ⟨isNCName_iff, fun base e name => ⟨?_, ?_⟩⟩
  · rw [requiredNCName_eq_ok_iff, isNCName_iff]
  · rw [requiredNCName_eq_error_iff, ← Bool.not_eq_true, isNCName_iff]
    simp only [not_and, not_forall, not_not, exists_prop]

/-- A name of one letter, in Hiragana. -/
theorem the_name_in_hiragana_is_refused : ¬ (isNCName "あ" = true ↔ NCName "あ".toList) := by
  have hletter : IsInRanges startRanges 'あ' := by decide
  have hname : NCName "あ".toList := NCName.start hletter
  have hrefused : isNCName "あ" = false := by decide
  rw [hrefused]
  exact fun h => nomatch h.2 hname

end Wsdl
