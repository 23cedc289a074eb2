-- Which operations have only labels that their pattern knows. The labels are
-- looked at where they are written, before those that are left out get their
-- defaults. A default is always a label of the pattern that is looked at, so an
-- operation passes just if all labels of the component are known.
import Wsdl.Proofs.Labels
import Wsdl.Proofs.Validators

namespace Wsdl

/-! ## The labels of a pattern -/

/-- The label is one of the pattern's placeholders. -/
def Pattern.Knows (p : Pattern) (l : String) : Prop := ∃ dir, (l, dir) ∈ p.placeholders

theorem Pattern.hasLabel_iff {p : Pattern} {l : String} : p.hasLabel l = true ↔ p.Knows l := by
  rw [hasLabel, List.any_eq_true]
  constructor
  · rintro ⟨⟨l', dir⟩, hmem, hl⟩
    obtain rfl : l' = l := by simpa using hl
    exact ⟨dir, hmem⟩
  · rintro ⟨dir, hmem⟩
    exact ⟨(l, dir), hmem, by simp⟩

theorem ReferenceKind.forall_iff {P : ReferenceKind → Prop} :
    (∀ k, P k) ↔ P .message ∧ P .fault := by
  constructor
  · exact fun h => ⟨h .message, h .fault⟩
  · rintro ⟨hmessage, hfault⟩ k
    cases k with
    | message => exact hmessage
    | fault => exact hfault

/-- Whatever a default label is for, it is one of the placeholders. -/
theorem ReferenceKind.knows_of_label {k : ReferenceKind} {p : Pattern} {dir : Direction}
    {l : String} (h : k.label p dir = some l) : p.Knows l := by
  rw [← Pattern.hasLabel_iff]
  cases k with
  | message => exact Pattern.hasLabel_of_messageLabel h
  | fault =>
    have hfault : p.faultLabel dir = some l := h
    unfold Pattern.faultLabel at hfault
    split at hfault
    · exact Pattern.hasLabel_of_messageLabel hfault
    · exact Pattern.hasLabel_of_messageLabel hfault
    · exact absurd hfault (Option.some_ne_none l).symm

/-! ## References with known labels -/

/-- Every label of the references is one of the pattern's placeholders. -/
def Known {α : Type} (p : Pattern) (refs : List (α × Option String)) : Prop :=
  ∀ x ∈ refs, ∀ l, x.2 = some l → p.Knows l

/-- The labels of an operation, on its messages and on its faults, are
placeholders of the pattern. -/
structure Component.Operation.IsLabelledBy (o : Component.Operation) (p : Pattern) : Prop where
  messages : ∀ m ∈ o.messages, ∀ l, m.label = some l → p.Knows l
  faults : ∀ f ∈ o.faults, ∀ l, f.label = some l → p.Knows l

namespace Component

section

variable {p : Pattern} {k : ReferenceKind} {o : Operation}

theorem isLabelledBy_iff : o.IsLabelledBy p ↔ ∀ k, Known p (o.references k) := by
  have hmessage : Known p (o.references .message)
      ↔ ∀ m ∈ o.messages, ∀ l, m.label = some l → p.Knows l := List.forall_mem_map
  have hfault : Known p (o.references .fault)
      ↔ ∀ f ∈ o.faults, ∀ l, f.label = some l → p.Knows l := List.forall_mem_map
  rw [ReferenceKind.forall_iff, hmessage, hfault]
  constructor
  · exact fun h => ⟨h.messages, h.faults⟩
  · exact fun h => ⟨h.1, h.2⟩

/-- A label is known if it is written and known, and also if it is filled in. -/
theorem TakesLabel.known_iff {dir : Direction} {written label : Option String}
    (h : TakesLabel (k.label · dir) (some o) written label) (hp : o.predefined = some p) :
    (∀ l, label = some l → p.Knows l) ↔ ∀ l, written = some l → p.Knows l := by
  cases written with
  | some l' => rw [h.keeps l' rfl]
  | none =>
    rw [h.follows rfl o p rfl hp]
    constructor
    · simp
    · exact fun _ l hl => k.knows_of_label hl

/-- References take no unknown label from their own operation. -/
theorem Labelled.known_iff {written : List (Direction × Option String)}
    {derived : List (Option Direction × Option String)}
    (h : Labelled k (some o) written derived) (hp : o.predefined = some p) :
    Known p derived ↔ Known p written := by
  unfold Known
  induction h with
  | nil => simp
  | cons hxy _ ih => rw [List.forall_mem_cons, List.forall_mem_cons, ih, hxy.2.known_iff hp]

end

end Component

/-! ## What the inspections of labels find -/

namespace Check

section

variable (r : Rule) (o : Written.Operation)

theorem labelChecks_eq_nil_iff (ls : List (Option String × Locator)) :
    labelChecks r o ls = [] ↔ ∀ p, Pattern.find? o.patternIri = some p →
      ∀ x ∈ ls, ∀ l, x.1 = some l → p.Knows l := by
  unfold labelChecks
  cases Pattern.find? o.patternIri with
  | none => simp
  | some p => simp [← Pattern.hasLabel_iff]

theorem holds_writtenMessageLabels_iff :
    (Inspection.writtenMessageLabels o).holds = true ↔
      ∀ p, Pattern.find? o.patternIri = some p → Known p (o.references .message) := by
  rw [(Inspection.tells_writtenMessageLabels o).holds_iff, writtenMessageLabels,
    labelChecks_eq_nil_iff]
  simp only [Known, Written.Operation.references, List.forall_mem_map]

theorem holds_writtenFaultLabels_iff :
    (Inspection.writtenFaultLabels o).holds = true ↔
      ∀ p, Pattern.find? o.patternIri = some p → Known p (o.references .fault) := by
  rw [(Inspection.tells_writtenFaultLabels o).holds_iff, writtenFaultLabels,
    labelChecks_eq_nil_iff]
  simp only [Known, Written.Operation.references, List.forall_mem_map]

end

end Check

/-! ## The law -/

namespace Component

open Check (Inspection)

/-- The written labels of an operation pass just if its component follows no
predefined pattern, or has none but labels of the pattern, those that were
filled in included. -/
theorem written_labels_pass_iff_every_label_is_known (w : Written.Description) :
    List.Forall₂ (fun (wi : Written.Interface) (i : Interface) =>
      List.Forall₂ (fun (wo : Written.Operation) (o : Operation) =>
        ((Inspection.writtenMessageLabels wo).holds = true ∧
            (Inspection.writtenFaultLabels wo).holds = true) ↔
          (o.predefined = none ∨ ∃ p, o.predefined = some p ∧ o.IsLabelledBy p))
        wi.operations i.operations) w.interfaces (derive w).interfaces := by
  refine List.forall₂_map_right_iff.2 (List.forall₂_same.2 fun wi hwi => ?_)
  refine List.forall₂_map_right_iff.2 (List.forall₂_same.2 fun wo hwo => ?_)
  have hwritten : WrittenAs w (deriveOperation w wi.styleDefault wo) wo := ⟨wi, hwi, hwo, rfl⟩
  have hpredefined : (deriveOperation w wi.styleDefault wo).predefined
      = Pattern.find? wo.patternIri := rfl
  rw [Check.holds_writtenMessageLabels_iff, Check.holds_writtenFaultLabels_iff, hpredefined]
  cases hp : Pattern.find? wo.patternIri with
  | none => simp
  | some p =>
    have hknown (k : ReferenceKind) := (hwritten.labelled k).known_iff (hpredefined.trans hp)
    have hlabelled : (deriveOperation w wi.styleDefault wo).IsLabelledBy p
        ↔ Known p (wo.references .message) ∧ Known p (wo.references .fault) := by
      rw [isLabelledBy_iff, forall_congr' hknown, ReferenceKind.forall_iff]
    simp [hlabelled]

end Component

end Wsdl
