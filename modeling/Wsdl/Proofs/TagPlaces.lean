-- Where the elements of a document are said to stand. That is where the less-than
-- signs of their own start tags are, whatever comes before these. But a byte order
-- mark in front is skipped without being counted, and then the positions are looked
-- up three bytes too early.
import Wsdl.Proofs.CutTexts
import Wsdl.Proofs.Encoding
import Wsdl.Proofs.LinesAndColumns
import Wsdl.Proofs.TreeOfTags

namespace Wsdl.Xml

open Markup

/-! ## Where tags are looked up -/

namespace Document

/-- An ASCII character is skipped if it is white space. -/
theorem skipSpace_character (cs ds : List Char) {c : Char} (hc : c.val.toNat ≤ 0x7F) :
    skipSpace (cs ++ c :: ds).utf8Encode (Text.byteLength cs)
      = if UInt8.ofNat c.val.toNat ∈ [0x20, 0x09, 0x0A, 0x0C, 0x0D] then
          skipSpace (cs ++ c :: ds).utf8Encode (Text.byteLength cs + 1)
        else Text.byteLength cs := by
  have hlt : Text.byteLength cs < (cs ++ c :: ds).utf8Encode.size := by
    have hsize := c.utf8Size_pos
    rw [Text.size_utf8Encode, Text.byteLength_append, Text.byteLength_cons]
    omega
  rw [skipSpace, dif_pos hlt]
  simp only [Text.getElem_utf8Encode hc, List.mem_cons, List.not_mem_nil, or_false]

/-- The white space before a less-than sign is skipped up to the sign. -/
theorem skipSpace_append {before blank rest : List Char}
    (hblank : blank.all Text.isXmlSpace = true) :
    skipSpace (before ++ blank ++ '<' :: rest).utf8Encode (Text.byteLength before)
      = Text.byteLength (before ++ blank) := by
  induction blank generalizing before with
  | nil =>
    rw [List.append_nil, skipSpace_character before rest (by decide), if_neg (by decide)]
  | cons c blank ih =>
    rw [List.all_cons, Bool.and_eq_true] at hblank
    obtain ⟨hascii, hsize, hspace⟩ : c.val.toNat ≤ 0x7F ∧ c.utf8Size = 1 ∧
        UInt8.ofNat c.val.toNat ∈ [0x20, 0x09, 0x0A, 0x0C, 0x0D] := by
      have hc := hblank.1
      simp only [Text.isXmlSpace, Bool.or_eq_true, beq_iff_eq] at hc
      rcases hc with ((rfl | rfl) | rfl) | rfl
      · decide
      · decide
      · decide
      · decide
    have hskip := @ih (before ++ [c]) hblank.2
    have hstep : Text.byteLength (before ++ [c]) = Text.byteLength before + 1 := by
      rw [Text.byteLength_append, Text.byteLength_cons, Text.byteLength_nil, hsize]
    simp only [List.append_assoc, List.cons_append, List.nil_append] at hskip ⊢
    rw [hstep] at hskip
    rw [skipSpace_character before _ hascii, if_pos hspace, hskip]

/-- The position of a tag is that behind what stands before its less-than sign, if a
byte order mark does not come first. -/
theorem positionOf_eq_behind {xml : String} {before blank rest : List Char}
    (hblank : blank.all Text.isXmlSpace = true)
    (hxml : xml.toList = before ++ blank ++ '<' :: rest) :
    positionOf xml (Text.byteLength before) = .behind (before ++ blank) := by
  rw [positionOf, tagPosition, Text.toUTF8_eq, hxml, skipSpace_append hblank,
    LineIndex.position_append]

end Document

/-! ## Where elements stand -/

/-- The tags of a cut that start elements, each with the event that it is. -/
def tagPlaces (ss : List Standing) : List (Standing × Tag) :=
  ss.filterMap fun s => s.event.tag?.map (s, ·)

section

variable {ss : List Standing} {y : Standing × Tag}

theorem mem_tagPlaces : y ∈ tagPlaces ss ↔ y.1 ∈ ss ∧ y.1.event.tag? = some y.2 := by
  obtain ⟨s, tag⟩ := y
  simp [tagPlaces]

theorem tagsOf_map_marked (ss : List Standing) :
    tagsOf (ss.map Standing.marked)
      = (tagPlaces ss).map fun y => (Text.byteLength y.1.before, y.2) := by
  rw [tagsOf, tagPlaces, List.filterMap_map, List.map_filterMap]
  simp [Function.comp_def, Standing.marked]

/-- Each tag begins behind those before it. -/
theorem Cut.pairwise_tagPlaces {before cs : List Char} (h : Cut before cs ss) :
    (tagPlaces ss).Pairwise fun y z => (Position.behind y.1.upTo).Before (.behind z.1.upTo) := by
  refine List.pairwise_filterMap.2 (h.pairwise.imp fun hst y hy z hz => ?_)
  obtain ⟨d, hd, hupTo⟩ := hst
  obtain ⟨_, -, rfl⟩ := Option.map_eq_some_iff.1 hy
  obtain ⟨_, -, rfl⟩ := Option.map_eq_some_iff.1 hz
  rw [hupTo]
  exact Position.behind_before _ hd

end

/-- An element has the tag of a place, and the text has it there. The position is
looked up at the offset without a byte order mark, and where there is none it is
that of the less-than sign. -/
structure Element.StandsAt (limits : Limits) (xml : String) (y : Standing × Tag) (e : Element) :
    Prop where
  written : ∃ after,
    withoutMark xml.toList = y.1.upTo ++ '<' :: (y.2.name ++ y.2.afterName ++ after)
  opened : e.IsOpenedBy limits (Document.positionOf xml) (Text.byteLength y.1.before, y.2)
  position : xml.toList.head? ≠ some '\ufeff' → e.position = .behind y.1.upTo

theorem Markup.withoutMark_eq_self {cs : List Char} (h : cs.head? ≠ some '\ufeff') :
    withoutMark cs = cs := by
  unfold withoutMark
  split
  · exact absurd rfl h
  · rfl

theorem Cut.standsAt {limits : Limits} {xml : String} {ss : List Standing} {y : Standing × Tag}
    {e : Element} (h : Cut [] (withoutMark xml.toList) ss) (hy : y ∈ tagPlaces ss)
    (hopened : e.IsOpenedBy limits (Document.positionOf xml) (Text.byteLength y.1.before, y.2)) :
    e.StandsAt limits xml y := by
  obtain ⟨hs, htag⟩ := mem_tagPlaces.1 hy
  obtain ⟨-, hblank, spelling, rest, htext, hspelled⟩ := h.of_mem hs
  obtain ⟨after, rfl⟩ := hspelled.exists_of_tag htag
  have hwritten : withoutMark xml.toList
      = y.1.upTo ++ '<' :: (y.2.name ++ y.2.afterName ++ (after ++ rest)) := by
    simpa using htext
  refine ⟨⟨_, hwritten⟩, hopened, fun hmark => ?_⟩
  rw [withoutMark_eq_self hmark] at hwritten
  rw [hopened.1]
  exact Document.positionOf_eq_behind hblank hwritten

namespace Document

/-- The tags of the root are the last ones of a text that is cut into events as they
are written. Without a byte order mark in front, each element stands where its tag
begins, and so the positions come in the order of the document. -/
theorem an_element_stands_where_its_tag_begins {limits : Limits} {xml : String} {e : Element}
    (h : parse limits xml = .ok (some e)) :
    ∃ ss, Cut [] (withoutMark xml.toList) ss ∧ ∃ places, places <:+ tagPlaces ss ∧
      List.Forall₂ (fun y x => x.2.StandsAt limits xml y) places (e.preorder 0) ∧
      (xml.toList.head? ≠ some '\ufeff' →
        (e.preorder 0).Pairwise fun x y => x.2.position.Before y.2.position) := by
  obtain ⟨-, hfault, -⟩ := parse_eq_ok_iff.1 h
  obtain ⟨before, ms, _, _, own, hms, _, hcontent⟩ := content_of_root h
  obtain ⟨ss, hcut, hevents⟩ : IsCutOf [] (withoutMark xml.toList) (events xml) :=
    isCutOf_scanFrom (.inr rfl) hfault
  have htags := tagsOf_map_marked ss
  rw [← hevents, hms, tagsOf_append] at htags
  obtain ⟨lost, places, hplaces, -, htags⟩ := List.map_eq_append_iff.1 htags.symm
  have hopened := hcontent.isTreeOf.opened
  rw [← htags, List.forall₂_map_left_iff] at hopened
  have hsuffix : places <:+ tagPlaces ss := ⟨lost, hplaces.symm⟩
  have hstands : List.Forall₂ (fun y x => x.2.StandsAt limits xml y) places (e.preorder 0) :=
    ((List.forall₂_and_left _ _).2 ⟨fun y hy => hsuffix.subset hy, hopened⟩).imp
      fun y x hyx => hcut.standsAt hyx.1 hyx.2
  refine ⟨ss, hcut, places, hsuffix, hstands, fun hmark => ?_⟩
  have hpositions : places.map (fun y => Position.behind y.1.upTo)
      = (e.preorder 0).map (·.2.position) := by
    rw [← List.forall₂_eq_eq_eq, List.forall₂_map_left_iff, List.forall₂_map_right_iff]
    exact hstands.imp fun y x hyx => (hyx.position hmark).symm
  rw [← List.pairwise_map, ← hpositions, List.pairwise_map]
  exact hcut.pairwise_tagPlaces.sublist hsuffix.sublist

/-- Before the tags are an instruction, a comment, a section with a character of two
bytes, and text with spaces behind it. -/
def exampleBehindOthers : String :=
  "<?xml version='1.0'?>\n<!-- <a> -->\n <a x='>'>\n<![CDATA[<é>]]>\t<b/>u  <c/></a>"

theorem the_tags_behind_other_things_stand_where_they_begin :
    ∃ e, parse .standard exampleBehindOthers = .ok (some e) ∧
      (e.preorder 0).map (·.2.position) = [⟨3, 2⟩, ⟨4, 18⟩, ⟨4, 25⟩] ∧
      (e.preorder 0).Pairwise (fun x y => x.2.position.Before y.2.position) ∧
      ∃ ss, Cut [] exampleBehindOthers.toList ss ∧ ∃ places, places <:+ tagPlaces ss ∧
        List.Forall₂ (fun y x => x.2.StandsAt .standard exampleBehindOthers y) places
          (e.preorder 0) := by
  obtain ⟨e, hread, hpositions⟩ : ∃ e, parse .standard exampleBehindOthers = .ok (some e) ∧
      (e.preorder 0).map (·.2.position) = [⟨3, 2⟩, ⟨4, 18⟩, ⟨4, 25⟩] :=
    exists_root (by decide +kernel)
  obtain ⟨ss, hcut, places, hplaces, hstands, hordered⟩ :=
    an_element_stands_where_its_tag_begins hread
  exact ⟨e, hread, hpositions, hordered (by decide), ss, hcut, places, hplaces, hstands⟩

/-- A byte order mark in front leads to positions at which there is no tag, and to one
position for two tags. -/
theorem a_byte_order_mark_moves_the_positions :
    (¬ ∀ (limits : Limits) (xml : String) (e : Element), parse limits xml = .ok (some e) →
        ∃ before rest, xml.toList = before ++ '<' :: rest ∧ e.position = .behind before) ∧
      ¬ ∀ (limits : Limits) (xml : String) (e : Element), parse limits xml = .ok (some e) →
        (e.preorder 0).Pairwise fun x y => x.2.position.Before y.2.position := by
  constructor
  · intro h
    obtain ⟨e, hread, hposition⟩ : ∃ e, parse .standard "\ufeff<a>\n  <b/>\n</a>" = .ok (some e) ∧
        e.position = ⟨1, 1⟩ := exists_root (by decide +kernel)
    obtain ⟨before, rest, htext, hbehind⟩ := h _ _ _ hread
    have hbefore : before ≠ [] := by
      rintro rfl
      simp at htext
    have hlater := Position.behind_before [] hbefore
    rw [List.nil_append, ← hbehind, hposition] at hlater
    revert hlater
    decide
  · intro h
    obtain ⟨e, hread, hpositions⟩ : ∃ e, parse .standard "\ufeff<r>u   <a><b/></a></r>"
        = .ok (some e) ∧ (e.preorder 0).map (·.2.position) = [⟨1, 1⟩, ⟨1, 11⟩, ⟨1, 11⟩] :=
      exists_root (by decide +kernel)
    have hordered := h _ _ _ hread
    rw [← List.pairwise_map, hpositions] at hordered
    revert hordered
    decide

end Document

end Wsdl.Xml
