-- How the tags of a document are nested. The markup that an element takes up is
-- its start tag, what is inside of it, and its end tag, or one tag that does for
-- both. A document that is read is a sequence of such elements with other things
-- between them, and its root is the last one.
import Wsdl.Proofs.StartTags

namespace Wsdl.Xml

/-! ## Tags and character data -/

/-- The tag of an event that starts an element. -/
def Event.tag? : Event → Option Tag
  | .start tag => some tag
  | .empty tag => some tag
  | _ => none

/-- The character data that an event adds to the element around it. Text that
is blank adds none. -/
def Event.data? : Event → Option (List Char)
  | .text raw => (Entity.unescape raw).toOption.filter fun cs => ! cs.all Text.isBlank
  | .cdata content => some content
  | _ => none

/-- The tags that start elements, each with its mark. -/
def tagsOf (ms : List Marked) : List (Nat × Tag) :=
  ms.filterMap fun m => m.event.tag?.map (m.mark, ·)

/-- Pieces of character data as one text, if there are any. -/
def joined : List (List Char) → Option String
  | [] => none
  | d :: ds => some (String.ofList (d :: ds).flatten)

/-- What the start tag of an element says. -/
def Element.opening (e : Element) : Opening := ⟨e.name, e.attributes, e.scope⟩

/-! ## The grammar -/

section

variable (limits : Limits) (positionOf : Nat → Position)

/-- An opening at a position is that of a tag, when as many elements are open as
`depth` says and the bindings of `outer` are in force. -/
structure Opens (outer : Scope) (depth : Nat) (mark : Nat) (tag : Tag) (o : Opening)
    (p : Position) : Prop where
  opening : Opening.ofTag limits outer tag = .ok o
  position : p = positionOf mark
  depth_lt : depth < limits.depth

/-- The events are those of the elements, one after the other, and of the
character data and other things between them. -/
inductive Content : Scope → Nat → List Marked → List Element → List (List Char) → Prop
  | nothing {outer : Scope} {depth : Nat} : Content outer depth [] [] []
  | leaf {outer : Scope} {depth mark : Nat} {tag : Tag} {e : Element} {ms : List Marked}
      {es : List Element} {own : List (List Char)} :
      Opens limits positionOf outer depth mark tag e.opening e.position →
      e.children = [] → e.text = none → Content outer depth ms es own →
      Content outer depth (⟨mark, .empty tag⟩ :: ms) (e :: es) own
  | branch {outer : Scope} {depth mark mark' : Nat} {tag : Tag} {e : Element}
      {inner ms : List Marked} {es : List Element} {data own : List (List Char)} :
      Opens limits positionOf outer depth mark tag e.opening e.position →
      Content e.scope (depth + 1) inner e.children data → e.text = joined data →
      Content outer depth ms es own →
      Content outer depth (⟨mark, .start tag⟩ :: inner ++ ⟨mark', .close⟩ :: ms) (e :: es) own
  | other {outer : Scope} {depth : Nat} {m : Marked} {ms : List Marked} {es : List Element}
      {own : List (List Char)} :
      m.event.tag? = none → m.event ≠ .close → Content outer depth ms es own →
      Content outer depth (m :: ms) es (m.event.data?.toList ++ own)
  /-- Outside of all elements an end tag ends nothing. -/
  | stray {outer : Scope} {mark : Nat} {ms : List Marked} {es : List Element}
      {own : List (List Char)} :
      Content outer 0 ms es own → Content outer 0 (⟨mark, .close⟩ :: ms) es own

variable {limits positionOf} {outer : Scope} {depth : Nat} {ms ns : List Marked}
  {es fs : List Element} {own data : List (List Char)}

theorem Content.append (h : Content limits positionOf outer depth ms es own)
    (h' : Content limits positionOf outer depth ns fs data) :
    Content limits positionOf outer depth (ms ++ ns) (es ++ fs) (own ++ data) := by
  induction h with
  | nothing => exact h'
  | leaf hopens hchildren htext _ ih => exact .leaf hopens hchildren htext (ih h')
  | branch hopens hinner htext _ _ ih =>
    simp only [List.cons_append, List.append_assoc]
    exact .branch hopens hinner htext (ih h')
  | other htag hclose _ ih =>
    rw [List.append_assoc]
    exact .other htag hclose (ih h')
  | stray _ ih => exact .stray (ih h')

/-- Where the elements are cut in two, so are the events. -/
theorem Content.split (h : Content limits positionOf outer depth ms (es ++ fs) own) :
    ∃ before after data data', ms = before ++ after ∧
      Content limits positionOf outer depth before es data ∧
      Content limits positionOf outer depth after fs data' := by
  generalize hgs : es ++ fs = gs at h
  induction h generalizing es with
  | nothing =>
    obtain ⟨rfl, rfl⟩ := List.append_eq_nil_iff.1 hgs
    exact ⟨[], [], [], [], rfl, .nothing, .nothing⟩
  | leaf hopens hchildren htext hrest ih =>
    cases es with
    | nil =>
      obtain rfl := hgs
      exact ⟨[], _, [], _, rfl, .nothing, .leaf hopens hchildren htext hrest⟩
    | cons e es =>
      obtain ⟨rfl, htail⟩ := List.cons.inj hgs
      obtain ⟨before, after, data, data', rfl, hbefore, hafter⟩ := ih htail
      exact ⟨_ :: before, after, data, data', rfl, .leaf hopens hchildren htext hbefore, hafter⟩
  | @branch outer depth mark mark' tag e inner ms gs data own hopens hinner htext hrest _ ih =>
    cases es with
    | nil =>
      obtain rfl := hgs
      exact ⟨[], _, [], _, rfl, .nothing, .branch hopens hinner htext hrest⟩
    | cons e es =>
      obtain ⟨rfl, htail⟩ := List.cons.inj hgs
      obtain ⟨before, after, data, data', rfl, hbefore, hafter⟩ := ih htail
      exact ⟨⟨mark, .start tag⟩ :: inner ++ ⟨mark', .close⟩ :: before, after, data, data', by simp,
        .branch hopens hinner htext hbefore, hafter⟩
  | other htag hclose _ ih =>
    obtain ⟨before, after, data, data', rfl, hbefore, hafter⟩ := ih hgs
    exact ⟨_ :: before, after, _, data', rfl, .other htag hclose hbefore, hafter⟩
  | stray _ ih =>
    obtain ⟨before, after, data, data', rfl, hbefore, hafter⟩ := ih hgs
    exact ⟨_ :: before, after, data, data', rfl, .stray hbefore, hafter⟩

/-! ## Where a building stands -/

variable (limits positionOf)

/-- The events read so far have led to a building. For each open element they
are those before it, its start tag, and its content up to here. -/
inductive Stands : List Marked → Building → Prop
  | outside {ms : List Marked} {es : List Element} {own : List (List Char)} :
      Content limits positionOf .empty 0 ms es own → Stands ms ⟨[], es.getLast?⟩
  | inside {ms inner : List Marked} {b : Building} {d : Draft} {mark : Nat} {tag : Tag}
      {data : List (List Char)} :
      Stands ms b → Opens limits positionOf b.scope b.opened.length mark tag d.opening d.position →
      Content limits positionOf d.opening.scope (b.opened.length + 1) inner d.children.reverse
        data →
      d.text = joined data →
      Stands (ms ++ ⟨mark, .start tag⟩ :: inner) { b with opened := d :: b.opened }

variable {limits positionOf} {b b' : Building} {m : Marked}

/-- A complete element takes its place. -/
theorem Stands.place (h : Stands limits positionOf ms b) {e : Element}
    (he : Content limits positionOf b.scope b.opened.length ns [e] []) :
    Stands limits positionOf (ms ++ ns) (b.place e) := by
  cases h with
  | outside hcontent =>
    have hlast := Stands.outside (hcontent.append he)
    rwa [List.getLast?_concat] at hlast
  | @inside ms inner b d mark tag data hb hopens hinner htext =>
    rw [List.append_assoc, List.cons_append]
    refine .inside (d := d.addChild e) hb hopens ?_ htext
    have happend := hinner.append he
    rwa [List.append_nil, ← List.reverse_cons] at happend

theorem joined_append_singleton (data : List (List Char)) (cs : List Char) :
    joined (data ++ [cs]) = some ((joined data).getD "" ++ String.ofList cs) := by
  cases data with
  | nil => simp [joined]
  | cons d ds => simp [joined, String.append_assoc]

/-- The building with character data, if there is any, added to the innermost
open element. -/
def Building.take (b : Building) (data? : Option (List Char)) : Building :=
  match b.opened, data? with
  | d :: ds, some cs => { b with opened := d.addText (String.ofList cs) :: ds }
  | _, _ => b

/-- What is no tag adds its character data. -/
theorem Stands.other (h : Stands limits positionOf ms b) (htag : m.event.tag? = none)
    (hclose : m.event ≠ .close) :
    Stands limits positionOf (ms ++ [m]) (b.take m.event.data?) := by
  have hm : ∀ outer depth, Content limits positionOf outer depth [m] [] m.event.data?.toList := by
    intro outer depth
    have hone : Content limits positionOf outer depth [m] [] (m.event.data?.toList ++ []) :=
      .other htag hclose .nothing
    rwa [List.append_nil] at hone
  cases h with
  | outside hcontent =>
    have houtside := Stands.outside (hcontent.append (hm .empty 0))
    rwa [List.append_nil] at houtside
  | @inside ms inner b d mark tag data hb hopens hinner htext =>
    have happend := hinner.append (hm d.opening.scope (b.opened.length + 1))
    rw [List.append_nil] at happend
    rw [List.append_assoc, List.cons_append]
    cases hdata : m.event.data? with
    | none =>
      rw [hdata, Option.toList_none, List.append_nil] at happend
      exact .inside hb hopens happend htext
    | some cs =>
      rw [hdata, Option.toList_some] at happend
      refine .inside (d := d.addText (String.ofList cs)) hb hopens happend ?_
      rw [joined_append_singleton, ← htext]
      rfl

theorem take_of_step (htag : m.event.tag? = none) (hclose : m.event ≠ .close)
    (hstep : Building.step limits positionOf b m = .ok b') : b' = b.take m.event.data? := by
  obtain ⟨mark, event⟩ := m
  unfold Building.step at hstep
  unfold Building.take Event.data?
  cases event with
  | start tag => cases htag
  | empty tag => cases htag
  | close => exact absurd rfl hclose
  | text raw =>
    unfold Building.addText at hstep
    dsimp only at hstep ⊢
    cases hopened : b.opened with
    | nil =>
      simp only [hopened] at hstep
      exact (Except.ok.inj hstep).symm
    | cons d ds =>
      simp only [hopened] at hstep
      obtain ⟨cs, hcs, hb'⟩ := bind_eq_ok_iff.1 hstep
      rw [mapError_eq_ok_iff.1 hcs]
      by_cases hblank : cs.all Text.isBlank = true
      · rw [if_pos hblank] at hb'
        obtain rfl := Except.ok.inj hb'
        simp [Except.toOption, Option.filter, hblank]
      · rw [if_neg hblank] at hb'
        obtain rfl := Except.ok.inj hb'
        simp [Except.toOption, Option.filter, hblank]
  | cdata content =>
    dsimp only at hstep ⊢
    split at hstep
    · next d ds hopened =>
      obtain rfl := Except.ok.inj hstep
      simp [hopened]
    · next hopened =>
      obtain rfl := Except.ok.inj hstep
      simp [hopened]
  | other =>
    obtain rfl := Except.ok.inj hstep
    simp

theorem opens_of_draft {tag : Tag} {mark : Nat} {d : Draft}
    (h : Building.draft limits b tag (positionOf mark) = .ok d) :
    Opens limits positionOf b.scope b.opened.length mark tag d.opening d.position ∧
      d.text = none ∧ d.children = [] := by
  unfold Building.draft at h
  simp only [bind_eq_ok_iff, mapError_eq_ok_iff] at h
  obtain ⟨_, hdepth, opening, hopening, hd⟩ := h
  obtain rfl := Except.ok.inj hd
  exact ⟨⟨hopening, rfl, Limits.check_eq_ok_iff.1 hdepth⟩, rfl, rfl⟩

/-- One event leads from where a building stands to where it stands then. -/
theorem Stands.step (h : Stands limits positionOf ms b)
    (hstep : Building.step limits positionOf b m = .ok b') :
    Stands limits positionOf (ms ++ [m]) b' := by
  by_cases hother : m.event.tag? = none ∧ m.event ≠ .close
  · rw [take_of_step hother.1 hother.2 hstep]
    exact h.other hother.1 hother.2
  · obtain ⟨mark, event⟩ := m
    unfold Building.step at hstep
    cases event with
    | start tag =>
      obtain ⟨d, hd, hb'⟩ := bind_eq_ok_iff.1 hstep
      obtain rfl := Except.ok.inj hb'
      obtain ⟨hopens, htext, hchildren⟩ := opens_of_draft hd
      have hinner : Content limits positionOf d.opening.scope (b.opened.length + 1) []
          d.children.reverse [] := by
        rw [hchildren]
        exact .nothing
      exact .inside h hopens hinner htext
    | empty tag =>
      obtain ⟨d, hd, hb'⟩ := bind_eq_ok_iff.1 hstep
      obtain rfl := Except.ok.inj hb'
      obtain ⟨hopens, htext, hchildren⟩ := opens_of_draft hd
      have hclosed : d.close.children = [] := by simp [Draft.close, hchildren]
      exact h.place (.leaf (e := d.close) hopens hclosed htext .nothing)
    | close =>
      cases h with
      | @outside ms es own hcontent =>
        obtain rfl := Except.ok.inj hstep
        have hstray : Content limits positionOf .empty 0 [⟨mark, .close⟩] [] [] := .stray .nothing
        have houtside := Stands.outside (hcontent.append hstray)
        rwa [List.append_nil] at houtside
      | @inside ms inner b d mark' tag data hb hopens hinner htext =>
        obtain rfl := Except.ok.inj hstep
        have hwhole : Content limits positionOf b.scope b.opened.length
            (⟨mark', .start tag⟩ :: inner ++ [⟨mark, .close⟩]) [d.close] [] :=
          .branch hopens hinner htext .nothing
        rw [List.append_assoc]
        exact hb.place hwhole
    | text raw => exact absurd ⟨rfl, by simp⟩ hother
    | cdata content => exact absurd ⟨rfl, by simp⟩ hother
    | other => exact absurd ⟨rfl, by simp⟩ hother

theorem Stands.run {pre : List Marked} (h : Stands limits positionOf pre b)
    (hrun : ms.foldlM (Building.step limits positionOf) b = .ok b') :
    Stands limits positionOf (pre ++ ms) b' := by
  induction ms generalizing pre b with
  | nil =>
    obtain rfl := Except.ok.inj hrun
    rwa [List.append_nil]
  | cons m ms ih =>
    rw [List.foldlM_cons] at hrun
    obtain ⟨b₁, hstep, hrun⟩ := bind_eq_ok_iff.1 hrun
    have := ih (h.step hstep) hrun
    rwa [List.append_assoc, List.singleton_append] at this

theorem Stands.content (h : Stands limits positionOf ms b) (hopened : b.opened = []) :
    ∃ es own, Content limits positionOf .empty 0 ms es own ∧ b.root = es.getLast? := by
  cases h with
  | outside hcontent => exact ⟨_, _, hcontent, rfl⟩
  | inside => cases hopened

theorem Stands.of_build (hbuild : Document.build limits positionOf ms = .ok b) :
    Stands limits positionOf ms b :=
  (Stands.outside .nothing).run hbuild

end

/-! ## Documents -/

/-- The position of the tag before which the reader stood at a mark. -/
def Document.positionOf (xml : String) : Nat → Position :=
  Document.tagPosition xml.toUTF8 (LineIndex.of xml.toList)

/-- The events of a text. -/
def Document.events (xml : String) : List Marked := (Markup.scan xml.toList).events

theorem Document.parse_eq_ok_iff {limits : Limits} {xml : String} {root : Option Element} :
    Document.parse limits xml = .ok root ↔
      xml.utf8ByteSize ≤ limits.size ∧ (Markup.scan xml.toList).fault = none ∧
        ∃ b, Document.build limits (Document.positionOf xml) (Document.events xml) = .ok b ∧
          b.opened = [] ∧ b.root = root := by
  unfold Document.parse
  simp only [bind_eq_ok_iff, mapError_eq_ok_iff]
  constructor
  · rintro ⟨_, hsize, b, hb, h⟩
    split at h
    · cases h
    · next hfault =>
      split at h
      · next hopened =>
        obtain rfl := Except.ok.inj h
        exact ⟨Limits.check_eq_ok_iff.1 hsize, hfault, b, hb, List.isEmpty_iff.1 hopened, rfl⟩
      · cases h
  · rintro ⟨hsize, hfault, b, hb, hopened, rfl⟩
    refine ⟨(), Limits.check_eq_ok_iff.2 hsize, b, hb, ?_⟩
    simp [hfault, hopened, pure, Except.pure]

/-- A document that is read is a sequence of elements, and its root is the
last of them. -/
theorem Document.content_of_parse {limits : Limits} {xml : String} {root : Option Element}
    (h : Document.parse limits xml = .ok root) :
    ∃ es own, Content limits (Document.positionOf xml) .empty 0 (Document.events xml) es own ∧
      root = es.getLast? := by
  obtain ⟨_, _, b, hb, hopened, rfl⟩ := Document.parse_eq_ok_iff.1 h
  exact (Stands.of_build hb).content hopened

/-- What is found of the root of a document is found of an element. -/
theorem Document.exists_root {β : Type} {limits : Limits} {xml : String} {f : Element → β} {v : β}
    (h : (Document.parse limits xml).toOption.join.map f = some v) :
    ∃ e, Document.parse limits xml = .ok (some e) ∧ f e = v := by
  cases hparse : Document.parse limits xml with
  | error fault => simp [hparse, Except.toOption] at h
  | ok root =>
    rw [hparse] at h
    obtain ⟨e, he, hv⟩ := Option.map_eq_some_iff.1 h
    have hroot : root = some e := by simpa [Except.toOption] using he
    exact ⟨e, by rw [hroot], hv⟩

/-- The root is the last of the elements. The others stand before it, and it is what
the rest of the events is about. -/
theorem Document.content_of_root {limits : Limits} {xml : String} {e : Element}
    (h : Document.parse limits xml = .ok (some e)) :
    ∃ before ms es data own, Document.events xml = before ++ ms ∧
      Content limits (Document.positionOf xml) .empty 0 before es data ∧
      Content limits (Document.positionOf xml) .empty 0 ms [e] own := by
  obtain ⟨es, own, hcontent, hroot⟩ := Document.content_of_parse h
  obtain ⟨es, rfl⟩ := List.getLast?_eq_some_iff.1 hroot.symm
  obtain ⟨before, ms, data, own, hms, hbefore, hlast⟩ := hcontent.split
  exact ⟨before, ms, es, data, own, hms, hbefore, hlast⟩

end Wsdl.Xml
