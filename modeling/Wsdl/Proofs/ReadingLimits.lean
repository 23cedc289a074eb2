-- What the limits of reading do. A tree that is read keeps within them, and
-- with wider limits it is read as well: a limit refuses, and it changes nothing
-- else.
import Wsdl.Proofs.TreeOfTags

namespace Wsdl.Xml

/-! ## Within the limits -/

theorem Element.height_eq (e : Element) : e.height = heightAll e.children + 1 := by
  cases e
  rw [height]

theorem Element.heightAll_le {es : List Element} {n : Nat} (h : ∀ e ∈ es, e.height ≤ n) :
    heightAll es ≤ n := by
  induction es with
  | nil => simp [heightAll]
  | cons e es ih =>
    rw [heightAll, Nat.max_le]
    exact ⟨h e List.mem_cons_self, ih fun f hf => h f (List.mem_cons_of_mem _ hf)⟩

section

variable {limits : Limits} {positionOf : Nat → Position} {outer : Scope} {depth : Nat}
  {ms : List Marked} {es : List Element} {own : List (List Char)}

/-- The elements of a content go no deeper than the limit, those around them
counted. -/
theorem Content.height_le (h : Content limits positionOf outer depth ms es own) :
    ∀ e ∈ es, depth + e.height ≤ limits.depth := by
  induction h with
  | nothing => simp
  | @leaf outer depth mark tag e ms es own hopens hchildren _ _ ih =>
    rw [List.forall_mem_cons]
    refine ⟨?_, ih⟩
    rw [e.height_eq, hchildren, Element.heightAll]
    exact hopens.depth_lt
  | @branch outer depth mark mark' tag e inner ms es data own hopens _ _ _ hinner ih =>
    rw [List.forall_mem_cons]
    refine ⟨?_, ih⟩
    have hlt := hopens.depth_lt
    have hbelow : Element.heightAll e.children ≤ limits.depth - (depth + 1) :=
      Element.heightAll_le fun f hf => by
        have := hinner f hf
        omega
    rw [e.height_eq]
    omega
  | other _ _ _ ih => exact ih
  | stray _ ih => exact ih

/-- An element has no more attributes than the limit, and its tag declares no
more namespaces. -/
def Element.KeepsWithin (limits : Limits) (positionOf : Nat → Position) (t : Nat × Tag)
    (e : Element) : Prop :=
  e.position = positionOf t.1 ∧ e.attributes.length ≤ limits.attributes ∧
    t.2.declarationCount ≤ limits.namespaces

theorem Element.IsOpenedBy.keepsWithin {t : Nat × Tag} {e : Element}
    (h : e.IsOpenedBy limits positionOf t) : e.KeepsWithin limits positionOf t := by
  obtain ⟨hposition, outer, hopening⟩ := h
  obtain ⟨hdeclared, hattributes⟩ := Opening.counts_of_ofTag hopening
  exact ⟨hposition, hattributes, hdeclared⟩

end

/-! ## Wider limits -/

section

variable {limits wider : Limits} {positionOf : Nat → Position} {b b' : Building} {m : Marked}
  {ms : List Marked} {tag : Tag} {position : Position} {d : Draft}

theorem Building.draft_mono (hle : ∀ a, limits.of a ≤ wider.of a)
    (h : Building.draft limits b tag position = .ok d) :
    Building.draft wider b tag position = .ok d := by
  unfold Building.draft at h ⊢
  simp only [bind_eq_ok_iff, mapError_eq_ok_iff] at h ⊢
  obtain ⟨_, hdepth, o, ho, hd⟩ := h
  have hwider : b.opened.length + 1 ≤ wider.of .depth :=
    Nat.le_trans (Limits.check_eq_ok_iff.1 hdepth) (hle .depth)
  exact ⟨(), Limits.check_eq_ok_iff.2 hwider, o, Opening.ofTag_mono hle ho, hd⟩

/-- Only the events that start an element have to do with limits. -/
theorem Building.step_mono (hle : ∀ a, limits.of a ≤ wider.of a)
    (h : Building.step limits positionOf b m = .ok b') :
    Building.step wider positionOf b m = .ok b' := by
  unfold Building.step at h ⊢
  cases hevent : m.event with
  | start tag =>
    simp only [hevent] at h ⊢
    obtain ⟨d, hd, hb'⟩ := bind_eq_ok_iff.1 h
    exact bind_eq_ok_iff.2 ⟨d, Building.draft_mono hle hd, hb'⟩
  | empty tag =>
    simp only [hevent] at h ⊢
    obtain ⟨d, hd, hb'⟩ := bind_eq_ok_iff.1 h
    exact bind_eq_ok_iff.2 ⟨d, Building.draft_mono hle hd, hb'⟩
  | close =>
    simp only [hevent] at h ⊢
    exact h
  | text raw =>
    simp only [hevent] at h ⊢
    exact h
  | cdata content =>
    simp only [hevent] at h ⊢
    exact h
  | other =>
    simp only [hevent] at h ⊢
    exact h

theorem Document.build_mono (hle : ∀ a, limits.of a ≤ wider.of a)
    (h : Document.build limits positionOf ms = .ok b) :
    Document.build wider positionOf ms = .ok b := by
  unfold Document.build at h ⊢
  generalize Building.start = b₀ at h ⊢
  induction ms generalizing b₀ with
  | nil => exact h
  | cons m ms ih =>
    rw [List.foldlM_cons] at h ⊢
    obtain ⟨b₁, hstep, hrest⟩ := bind_eq_ok_iff.1 h
    exact bind_eq_ok_iff.2 ⟨b₁, Building.step_mono hle hstep, ih b₁ hrest⟩

end

/-! ## Documents -/

namespace Document

/-- A text that is read, and its tree, keep within the limits: in bytes, in
depth, and for each element in attributes and in what its tag declares. With
wider limits the same tree is read. -/
theorem a_limit_refuses_and_does_nothing_else {limits : Limits} {xml : String}
    {root : Option Element} (h : parse limits xml = .ok root) :
    xml.utf8ByteSize ≤ limits.size ∧
      (∀ e, root = some e → e.height ≤ limits.depth ∧
        ∃ tags, tags <:+ tagsOf (events xml) ∧
          List.Forall₂ (fun t x => x.2.KeepsWithin limits (positionOf xml) t) tags
            (e.preorder 0)) ∧
      ∀ wider : Limits, (∀ a, limits.of a ≤ wider.of a) → parse wider xml = .ok root := by
  obtain ⟨hsize, hfault, b, hb, hopened, hroot⟩ := parse_eq_ok_iff.1 h
  refine ⟨hsize, ?_, ?_⟩
  · rintro e rfl
    obtain ⟨before, ms, _, _, own, hms, _, hcontent⟩ := content_of_root h
    have hheight := hcontent.height_le e (List.mem_singleton_self e)
    refine ⟨by omega, tagsOf ms, List.IsSuffix.filterMap _ ⟨before, hms.symm⟩, ?_⟩
    exact hcontent.isTreeOf.opened.imp fun t x ht => ht.keepsWithin
  · intro wider hle
    exact parse_eq_ok_iff.2
      ⟨Nat.le_trans hsize (hle .size), hfault, b, build_mono hle hb, hopened, hroot⟩

/-- Two elements deep, with two declarations on one and an attribute on the
other. -/
def exampleSmall : String := "<a xmlns=\"u\" xmlns:p=\"v\"><b c=\"\"/></a>"

theorem limits_that_leave_no_room_may_be_widened :
    ∃ e, parse ⟨2, 38, 1, 2, 0⟩ exampleSmall = .ok (some e) ∧ e.height = 2 ∧
      parse .strict exampleSmall = .ok (some e) := by
  obtain ⟨e, hread, hheight⟩ : ∃ e, parse ⟨2, 38, 1, 2, 0⟩ exampleSmall = .ok (some e) ∧
      e.height = 2 := exists_root (by decide +kernel)
  obtain ⟨_, _, hwider⟩ := a_limit_refuses_and_does_nothing_else hread
  refine ⟨e, hread, hheight, hwider .strict fun a => ?_⟩
  cases a <;> decide

end Document

end Wsdl.Xml
