-- Texts with more than one element at their top. Each of these elements is read as
-- if it were alone, so a second one is no reason to refuse a text. The last of them
-- is taken for the root. The tags of those before it are in no tree, and nothing
-- tells that they were there.
import Wsdl.Proofs.TreeOfTags

namespace Wsdl.Xml

/-- How many tags start an element that is in no other. -/
def rootCount (ms : List Marked) : Nat := (Place.start.around ms).count []

section

variable {limits : Limits} {positionOf : Nat → Position} {outer : Scope} {ms ns : List Marked}
  {es fs : List Element} {own data : List (List Char)}

/-- Each element has a tag, so without tags there are no elements. -/
theorem Content.tagsOf_eq_nil_iff (h : Content limits positionOf outer 0 ms es own) :
    tagsOf ms = [] ↔ es = [] := by
  rw [← List.length_eq_zero_iff, ← h.length_listedAll [] 0, List.length_eq_zero_iff]
  cases es with
  | nil => simp [Element.listedAll]
  | cons e es => simp [Element.listedAll_cons]

/-- Behind elements that are closed the tags stand where nothing is open. -/
theorem Content.rootCount_append (h : Content limits positionOf outer 0 ms es own)
    (h' : Content limits positionOf outer 0 ns fs data) :
    rootCount (ms ++ ns) = rootCount ms + rootCount ns := by
  rw [rootCount, (h.append h').count_around, rootCount, h.count_around, rootCount,
    h'.count_around, List.length_append]

end

/-! ## What was read before -/

section

variable {limits : Limits} {positionOf : Nat → Position} {ms ns : List Marked} {b b' : Building}
  {m : Marked} {r : Option Element}

/-- The building with a root to fall back on. -/
def Building.fallback (r : Option Element) (b : Building) : Building := ⟨b.opened, b.root.or r⟩

theorem Building.place_fallback (e : Element) :
    (b.fallback r).place e = (b.place e).fallback r := by
  unfold fallback place
  cases b.opened with
  | nil => rfl
  | cons d ds => rfl

/-- A root that was read before has no part in what is read next. -/
theorem Building.step_fallback :
    step limits positionOf (b.fallback r) m
      = (step limits positionOf b m).map (Building.fallback r) := by
  have hdraft (tag : Tag) (p : Position) :
      draft limits (b.fallback r) tag p = draft limits b tag p := rfl
  unfold step
  cases m.event with
  | start tag =>
    simp only [hdraft]
    cases draft limits b tag (positionOf m.mark) with
    | ok d => rfl
    | error fault => rfl
  | empty tag =>
    simp only [hdraft]
    cases draft limits b tag (positionOf m.mark) with
    | ok d => exact congrArg Except.ok (place_fallback d.close)
    | error fault => rfl
  | close =>
    obtain ⟨opened, root⟩ := b
    cases opened with
    | nil => rfl
    | cons d ds => exact congrArg Except.ok (place_fallback (b := ⟨ds, root⟩) d.close)
  | text raw =>
    obtain ⟨opened, root⟩ := b
    cases opened with
    | nil => rfl
    | cons d ds =>
      simp only [fallback, addText]
      cases Entity.unescape raw with
      | ok cs =>
        simp only [Except.mapError, bind, Except.bind]
        cases cs.all Text.isBlank with
        | true => rfl
        | false => rfl
      | error fault => rfl
  | cdata content =>
    obtain ⟨opened, root⟩ := b
    cases opened with
    | nil => rfl
    | cons d ds => rfl
  | other => rfl

theorem Building.foldlM_fallback :
    ms.foldlM (step limits positionOf) (b.fallback r)
      = (ms.foldlM (step limits positionOf) b).map (Building.fallback r) := by
  induction ms generalizing b with
  | nil => rfl
  | cons m ms ih =>
    rw [List.foldlM_cons, List.foldlM_cons, step_fallback]
    cases step limits positionOf b m with
    | ok b' => exact ih
    | error fault => rfl

theorem Document.build_append (h : build limits positionOf ms = .ok ⟨[], r⟩) :
    build limits positionOf (ms ++ ns)
      = (build limits positionOf ns).map (Building.fallback r) := by
  unfold build at h ⊢
  rw [List.foldlM_append, h]
  exact Building.foldlM_fallback (b := .start)

end

/-! ## The law -/

namespace Document

/-- Where a text is cut between elements at its top, it is read if each of the two
parts is. -/
theorem exists_parse_iff {limits : Limits} {xml : String} {lost kept : List Marked}
    (hsize : xml.utf8ByteSize ≤ limits.size) (hfault : (Markup.scan xml.toList).fault = none)
    (hevents : events xml = lost ++ kept) (hcut : (Place.start.afterAll lost).opened = []) :
    (∃ root, parse limits xml = .ok root) ↔
      (∃ r, build limits (positionOf xml) lost = .ok ⟨[], r⟩) ∧
        ∃ r, build limits (positionOf xml) kept = .ok ⟨[], r⟩ := by
  constructor
  · rintro ⟨root, h⟩
    obtain ⟨_, _, b, hb, hopened, -⟩ := parse_eq_ok_iff.1 h
    have hsplit := hb
    rw [hevents, build, List.foldlM_append] at hsplit
    obtain ⟨b₁, hlost, _⟩ := bind_eq_ok_iff.1 hsplit
    have hlength := (Stands.of_build hlost).length_opened
    rw [hcut, List.length_nil, eq_comm, List.length_eq_zero_iff] at hlength
    obtain ⟨opened, r⟩ := b₁
    obtain rfl : opened = [] := hlength
    rw [hevents, build_append hlost] at hb
    cases hkept : build limits (positionOf xml) kept with
    | error fault =>
      rw [hkept] at hb
      cases hb
    | ok b₂ =>
      rw [hkept] at hb
      obtain rfl := Except.ok.inj hb
      obtain ⟨opened, r'⟩ := b₂
      obtain rfl : opened = [] := hopened
      exact ⟨⟨r, hlost⟩, r', rfl⟩
  · rintro ⟨⟨r, hlost⟩, r', hkept⟩
    refine ⟨r'.or r, parse_eq_ok_iff.2 ⟨hsize, hfault, ⟨[], r'.or r⟩, ?_, rfl, rfl⟩⟩
    rw [hevents, build_append hlost, hkept]
    rfl

/-- A text whose markup can be made out is read if each part of it is that stands by
itself, however many of them there are. With several elements at the top the last one
is the root, as the tree of its own tags. Those before it are lost, and that is so
just where there is more than one such element. -/
theorem tags_are_lost_iff_there_are_several_roots (limits : Limits) (xml : String) :
    (xml.utf8ByteSize ≤ limits.size → (Markup.scan xml.toList).fault = none →
        ∀ lost kept, events xml = lost ++ kept → (Place.start.afterAll lost).opened = [] →
          ((∃ root, parse limits xml = .ok root) ↔
            (∃ r, build limits (positionOf xml) lost = .ok ⟨[], r⟩) ∧
              ∃ r, build limits (positionOf xml) kept = .ok ⟨[], r⟩)) ∧
      ∀ root, parse limits xml = .ok root →
        (root = none ↔ rootCount (events xml) = 0) ∧
        ∀ e, root = some e → ∃ lost kept, events xml = lost ++ kept ∧
          e.IsTreeOf limits (positionOf xml) kept ∧ rootCount kept = 1 ∧
          rootCount (events xml) = rootCount lost + 1 ∧
          (tagsOf lost ≠ [] ↔ 1 < rootCount (events xml)) := by
  refine ⟨fun hsize hfault lost kept => exists_parse_iff hsize hfault, fun root h => ⟨?_, ?_⟩⟩
  · obtain ⟨es, own, hcontent, rfl⟩ := content_of_parse h
    rw [rootCount, hcontent.count_around, List.length_eq_zero_iff, List.getLast?_eq_none_iff]
  · rintro e rfl
    obtain ⟨lost, kept, es, data, own, hevents, hlost, hkept⟩ := content_of_root h
    have hone : rootCount kept = 1 := hkept.count_around
    have hcount : rootCount (events xml) = rootCount lost + 1 := by
      rw [hevents, hlost.rootCount_append hkept, hone]
    refine ⟨lost, kept, hevents, hkept.isTreeOf, hone, hcount, ?_⟩
    rw [Ne, hlost.tagsOf_eq_nil_iff, hcount, rootCount, hlost.count_around,
      ← List.length_eq_zero_iff]
    omega

/-- Elements in one element, a comment, and then an empty tag. -/
def exampleTwoRoots : String := "<a><b/></a> <!-- done --> <c/>"

theorem the_first_of_two_roots_is_lost :
    ∃ e, parse .standard exampleTwoRoots = .ok (some e) ∧ e.name = ⟨none, "c"⟩ ∧
      rootCount (events exampleTwoRoots) = 2 ∧
      (∃ lost kept, events exampleTwoRoots = lost ++ kept ∧ tagsOf lost ≠ [] ∧
        e.IsTreeOf .standard (positionOf exampleTwoRoots) kept) ∧
      ∃ r, build .standard (positionOf exampleTwoRoots) ((events exampleTwoRoots).take 3)
        = .ok ⟨[], r⟩ := by
  have htwo : rootCount (events exampleTwoRoots) = 2 := by decide +kernel
  have hfault : (Markup.scan exampleTwoRoots.toList).fault = none := by decide +kernel
  have hcut : (Place.start.afterAll ((events exampleTwoRoots).take 3)).opened = [] := by
    decide +kernel
  obtain ⟨e, hread, hname⟩ : ∃ e, parse .standard exampleTwoRoots = .ok (some e) ∧
      e.name = ⟨none, "c"⟩ := exists_root (by decide +kernel)
  obtain ⟨hparts, hroots⟩ := tags_are_lost_iff_there_are_several_roots .standard exampleTwoRoots
  obtain ⟨lost, kept, hevents, htree, _, _, hlost⟩ := (hroots _ hread).2 e rfl
  have hfirst := ((hparts (by decide +kernel) hfault _ _ (List.take_append_drop 3 _).symm hcut).1
    ⟨_, hread⟩).1
  exact ⟨e, hread, hname, htwo,
    ⟨lost, kept, hevents, hlost.2 (by rw [htwo]; decide), htree⟩, hfirst⟩

/-- A second element at the top is no reason to refuse a text. -/
theorem a_second_root_is_not_refused :
    ¬ ∀ (limits : Limits) (xml : String), 1 < rootCount (events xml) →
      ∃ fault, parse limits xml = .error fault := by
  intro h
  have htwo : rootCount (events "<a/><b/>") = 2 := by decide +kernel
  obtain ⟨fault, hfault⟩ := h .standard "<a/><b/>" (by rw [htwo]; decide)
  have hread : (parse .standard "<a/><b/>").isOk = true := by decide +kernel
  rw [hfault] at hread
  cases hread

end Document

end Wsdl.Xml
