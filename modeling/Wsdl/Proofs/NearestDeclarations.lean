-- Which declarations are in force at an element: for each prefix the nearest one,
-- on its own tag or on that of an element it is in. So what is declared on an
-- element beside it, before it or below it has no effect.
import Wsdl.Proofs.TreeOfTags

namespace Wsdl

open Xml

/-! ## The bindings of nested tags -/

/-- The bindings are those that some tags declare, of which the innermost one
comes first. A default namespace that is empty is none. -/
structure Scope.IsOfTags (s : Scope) (tags : List Tag) : Prop where
  prefixes : ∀ p, p ≠ "xml" → s.find? p = tags.findSome? (·.declared? (some p))
  xml : s.find? "xml" = some xmlNamespace
  default : s.default = (tags.findSome? (·.declared? none)).filter (! ·.isEmpty)

theorem Scope.isOfTags_empty : Scope.empty.IsOfTags [] := by
  refine ⟨fun p hp => ?_, rfl, rfl⟩
  simp [find?, hp, empty]

/-- A tag adds its own declarations to those around it. -/
theorem Scope.IsOfTags.cons {outer : Scope} {tags : List Tag} {tag : Tag} {o : Opening}
    (h : outer.IsOfTags tags) (ho : o.IsOf outer tag) : o.scope.IsOfTags (tag :: tags) := by
  refine ⟨fun p hp => ?_, ?_, ?_⟩
  · rw [ho.prefixes p hp, h.prefixes p hp, List.findSome?_cons]
    cases tag.declared? (some p) <;> rfl
  · simp [find?]
  · rw [ho.default, h.default, List.findSome?_cons]
    cases tag.declared? none with
    | none => rfl
    | some value => cases hv : value.isEmpty <;> simp [hv, Option.filter]

namespace Xml

/-! ## Elements in their context -/

/-- An element has the bindings of its own tag and of those around it, and its
names are resolved with these bindings. -/
structure Element.IsDeclaredBy (e : Element) (tag : Tag) (around : List Tag) : Prop where
  scope : e.scope.IsOfTags (tag :: around)
  name : e.scope.Means (String.ofList tag.name) e.name
  attributes : Opening.NamesAttributes e.scope tag.others e.attributes

/-- The tags with some numbers. -/
def tagsAt (tags : List (Nat × Tag)) (numbers : List Nat) : List Tag :=
  numbers.filterMap fun i => tags[i]?.map (·.2)

section

variable {limits : Limits} {positionOf : Nat → Position} {outer : Scope} {depth mark n : Nat}
  {ms : List Marked} {es : List Element} {own : List (List Char)} {tags : List (Nat × Tag)}
  {tag : Tag} {e : Element} {above : List Nat}

theorem tagsAt_cons (h : tags[n]? = some (mark, tag)) :
    tagsAt tags (n :: above) = tag :: tagsAt tags above := by
  simp [tagsAt, h]

/-- What the tag with the number of an element says about the element. -/
def Element.FollowsTag (positionOf : Nat → Position) (tags : List (Nat × Tag)) (i : Nat)
    (x : List Nat × Element) : Prop :=
  ∃ t, tags[i]? = some t ∧ x.2.position = positionOf t.1 ∧
    x.2.IsDeclaredBy t.2 (tagsAt tags x.1)

theorem Opens.followsTag (h : Opens limits positionOf outer depth mark tag e.opening e.position)
    (htag : tags[n]? = some (mark, tag)) (houter : outer.IsOfTags (tagsAt tags above)) :
    Element.FollowsTag positionOf tags n (above, e) := by
  have ho := Opening.isOf_of_ofTag h.opening
  exact ⟨_, htag, h.position, houter.cons ho, ho.name, ho.attributes⟩

/-- If the tags of a content have their numbers among some tags, its elements
follow these, and so does each with the bindings of those that it is in. -/
theorem Content.followsTag (h : Content limits positionOf outer depth ms es own)
    (htags : Numbered (fun i t => tags[i]? = some t) n (tagsOf ms))
    (houter : outer.IsOfTags (tagsAt tags above)) :
    Numbered (Element.FollowsTag positionOf tags) n (Element.listedAll above n es) := by
  induction h generalizing above n with
  | nothing =>
    rw [Element.listedAll]
    exact numbered_nil
  | leaf hopens hchildren _ _ ih =>
    rw [tagsOf_cons] at htags
    obtain ⟨htag, hrest⟩ := numbered_cons.1 htags
    rw [Element.listedAll_cons, hchildren, Element.listedAll, List.nil_append, numbered_cons]
    exact ⟨hopens.followsTag htag houter, ih hrest houter⟩
  | @branch outer depth mark mark' tag e inner ms es data own hopens hcontent _ _ hinner ih =>
    rw [tagsOf_branch] at htags
    obtain ⟨htag, htags⟩ := numbered_cons.1 htags
    obtain ⟨htagsIn, htagsOut⟩ := numbered_append.1 htags
    have hscope : e.scope.IsOfTags (tagsAt tags (n :: above)) := by
      rw [tagsAt_cons htag]
      exact houter.cons (Opening.isOf_of_ofTag hopens.opening)
    rw [Element.listedAll_cons, numbered_cons, numbered_append, hcontent.length_listedAll,
      ← Nat.add_assoc]
    exact ⟨hopens.followsTag htag houter, hinner htagsIn hscope, ih htagsOut houter⟩
  | other htag _ _ ih =>
    rw [tagsOf_cons, htag] at htags
    exact ih htags houter
  | stray _ ih => exact ih htags houter

end

/-! ## Documents -/

namespace Document

/-- In a tree that is read, each element has for each prefix the nearest
declaration: that of its own tag, or of the innermost tag around it that has
one. Its own name and those of its attributes are resolved with these. -/
theorem the_nearest_declarations_are_in_force {limits : Limits} {xml : String} {e : Element}
    (h : parse limits xml = .ok (some e)) :
    ∃ tags, tags <:+ tagsOf (events xml) ∧ tags.length = (e.listed [] 0).length ∧
      Numbered (Element.FollowsTag (positionOf xml) tags) 0 (e.listed [] 0) := by
  obtain ⟨before, ms, _, _, own, hms, _, hcontent⟩ := content_of_root h
  have htags : Numbered (fun i t => (tagsOf ms)[i]? = some t) 0 (tagsOf ms) := by
    intro j t ht
    rwa [Nat.zero_add]
  refine ⟨tagsOf ms, List.IsSuffix.filterMap _ ⟨before, hms.symm⟩, ?_, ?_⟩
  · rw [← hcontent.length_listedAll [] 0, Element.listedAll_singleton]
  · rw [← Element.listedAll_singleton]
    exact hcontent.followsTag htags Scope.isOfTags_empty

/-- An element with declarations of its own, one of them empty, and one behind
it that has those of the outermost element. -/
def exampleNested : String :=
  "<a xmlns=\"u\" xmlns:p=\"1\"><p:b xmlns:p=\"2\" xmlns=\"\"><c/></p:b><p:d/></a>"

theorem the_element_behind_has_the_outer_declarations :
    ∃ e, parse .standard exampleNested = .ok (some e) ∧
      (e.listed [] 0).map (·.2.name.space) = [some "u", some "2", none, some "1"] ∧
      ∃ tags, tags.length = 4 ∧
        Numbered (Element.FollowsTag (positionOf exampleNested) tags) 0 (e.listed [] 0) := by
  obtain ⟨e, hread, hspaces⟩ : ∃ e, parse .standard exampleNested = .ok (some e) ∧
      (e.listed [] 0).map (·.2.name.space) = [some "u", some "2", none, some "1"] :=
    exists_root (by decide +kernel)
  obtain ⟨tags, _, hlength, hfollows⟩ := the_nearest_declarations_are_in_force hread
  refine ⟨e, hread, hspaces, tags, ?_, hfollows⟩
  rw [hlength, ← List.length_map, hspaces]
  rfl

end Document

end Xml

end Wsdl
