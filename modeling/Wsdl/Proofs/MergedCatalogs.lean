-- What comes of merging catalogs. What the first has stands, so a merge answers
-- like the first and then like the second, in whatever order the entries of the
-- second are taken. Identifiers of documents, of either, still come before names.
import Mathlib.Data.Finset.Card
import Mathlib.Data.List.Nodup
import Wsdl.Catalog.Basic

namespace Wsdl

namespace Dictionary

/-! ## Keys -/

theorem nodup_keys (d : Dictionary) : (d.entries.map (·.1)).Nodup :=
  List.Pairwise.map _ (fun _ _ => String.ne_of_lt) d.sorted

/-- The keys that have a value. -/
def keys (d : Dictionary) : Finset String := (d.entries.map (·.1)).toFinset

theorem mem_keys {d : Dictionary} {k : String} : k ∈ d.keys ↔ (d.find? k).isSome := by
  rw [keys, List.mem_toFinset, List.mem_map, find?, List.lookup_isSome_iff]
  simp only [beq_iff_eq, @eq_comm _ k]

theorem card_keys (d : Dictionary) : d.keys.card = d.size := by
  rw [keys, List.toFinset_card_of_nodup d.nodup_keys, List.length_map, size]

/-! ## Merges -/

/-- Takes entries in one by one. What has a value already keeps it. -/
def addNew (d : Dictionary) (es : List (String × String)) : Dictionary :=
  es.foldl (fun acc x => acc.insertIfNew x.1 x.2) d

theorem find?_addNew (d : Dictionary) (es : List (String × String)) (k : String) :
    (d.addNew es).find? k = (d.find? k).or (es.lookup k) := by
  induction es generalizing d with
  | nil => simp [addNew]
  | cons e es ih =>
    rw [addNew, List.foldl_cons, ← addNew, ih, find?_insertIfNew, Option.or_assoc,
      lookup_entry_cons]
    by_cases hk : k = e.1
    · simp [hk]
    · simp [hk]

variable (d e f : Dictionary)

theorem find?_merge (k : String) : (d.merge e).find? k = (d.find? k).or (e.find? k) :=
  find?_addNew d e.entries k

theorem addNew_eq_merge {es : List (String × String)} (h : es.Perm e.entries) :
    d.addNew es = d.merge e := by
  refine ext_find? fun k => ?_
  have hkeys : (es.map (·.1)).Nodup := (h.map _).nodup_iff.2 e.nodup_keys
  rw [find?_addNew, find?_merge, lookup_eq_of_perm hkeys h, find?, find?]

theorem merge_assoc : (d.merge e).merge f = d.merge (e.merge f) :=
  ext_find? fun k => by simp only [find?_merge, Option.or_assoc]

theorem merge_self : d.merge d = d :=
  ext_find? fun k => by rw [find?_merge, Option.or_self]

theorem empty_merge : empty.merge d = d :=
  ext_find? fun k => by rw [find?_merge, find?_empty, Option.none_or]

theorem keys_merge : (d.merge e).keys = d.keys ∪ e.keys := by
  ext k
  simp only [Finset.mem_union, mem_keys, find?_merge, Option.isSome_or, Bool.or_eq_true]

theorem size_le_size_merge : d.size ≤ (d.merge e).size ∧ e.size ≤ (d.merge e).size := by
  simp only [← card_keys, keys_merge]
  exact ⟨Finset.card_le_card Finset.subset_union_left, Finset.card_le_card Finset.subset_union_right⟩

theorem size_merge_le : (d.merge e).size ≤ d.size + e.size := by
  simp only [← card_keys, keys_merge]
  exact Finset.card_union_le d.keys e.keys

theorem size_merge_eq_add_iff :
    (d.merge e).size = d.size + e.size ↔ Disjoint d.keys e.keys := by
  simp only [← card_keys, keys_merge]
  exact Finset.card_union_eq_card_add_card

end Dictionary

namespace Catalog

/-- Takes in entries of both kinds one by one, as long as they are new. -/
def addNew (c : Catalog) (systems uris : List (String × String)) : Catalog :=
  ⟨c.systems.addNew systems, c.uris.addNew uris⟩

variable (a b c : Catalog)

theorem find?_merge (identifier : String) :
    (a.merge b).find? identifier
      = (a.systems.find? identifier).or ((b.systems.find? identifier).or
          ((a.uris.find? identifier).or (b.uris.find? identifier))) := by
  simp only [find?, merge, Dictionary.find?_merge, Option.or_assoc]

theorem addNew_eq_merge {systems uris : List (String × String)}
    (hsystems : systems.Perm b.systems.entries) (huris : uris.Perm b.uris.entries) :
    a.addNew systems uris = a.merge b := by
  rw [addNew, Dictionary.addNew_eq_merge _ _ hsystems, Dictionary.addNew_eq_merge _ _ huris, merge]

theorem max_size_le_size_merge : max a.size b.size ≤ (a.merge b).size := by
  have hsystems := a.systems.size_le_size_merge b.systems
  have huris := a.uris.size_le_size_merge b.uris
  simp only [size, merge]
  omega

theorem size_merge_le : (a.merge b).size ≤ a.size + b.size := by
  have hsystems := a.systems.size_merge_le b.systems
  have huris := a.uris.size_merge_le b.uris
  simp only [size, merge]
  omega

theorem size_merge_eq_add_iff :
    (a.merge b).size = a.size + b.size ↔
      Disjoint a.systems.keys b.systems.keys ∧ Disjoint a.uris.keys b.uris.keys := by
  have hsystems := a.systems.size_merge_le b.systems
  have huris := a.uris.size_merge_le b.uris
  rw [← Dictionary.size_merge_eq_add_iff, ← Dictionary.size_merge_eq_add_iff]
  simp only [size, merge]
  omega

/-! ## The law -/

/-- A merge answers with what the first catalog has for an identifier of a
document, then with what the second has, and then in the same way for names. The
order in which the entries of the second are taken does not matter. Merges can be
grouped in any way, a catalog takes nothing from itself, and nothing comes of the
empty one. A merge is no smaller than either catalog and no larger than both, and
as large as both if and only if they share no key of one kind. -/
theorem a_merge_answers_like_the_first_and_then_like_the_second :
    (∀ identifier, (a.merge b).find? identifier
      = (a.systems.find? identifier).or ((b.systems.find? identifier).or
          ((a.uris.find? identifier).or (b.uris.find? identifier)))) ∧
    (∀ systems uris, systems.Perm b.systems.entries → uris.Perm b.uris.entries →
      a.addNew systems uris = a.merge b) ∧
    (a.merge b).merge c = a.merge (b.merge c) ∧
    a.merge a = a ∧ (a.merge b).merge b = a.merge b ∧
    empty.merge a = a ∧ a.merge empty = a ∧
    max a.size b.size ≤ (a.merge b).size ∧ (a.merge b).size ≤ a.size + b.size ∧
    ((a.merge b).size = a.size + b.size ↔
      (∀ k, ¬ ((a.systems.find? k).isSome ∧ (b.systems.find? k).isSome)) ∧
        ∀ k, ¬ ((a.uris.find? k).isSome ∧ (b.uris.find? k).isSome)) := by
  have hassoc (x y z : Catalog) : (x.merge y).merge z = x.merge (y.merge z) := by
    simp only [merge, Dictionary.merge_assoc]
  have hself (x : Catalog) : x.merge x = x := by
    simp only [merge, Dictionary.merge_self]
  have hdisjoint (d e : Dictionary) :
      Disjoint d.keys e.keys ↔ ∀ k, ¬ ((d.find? k).isSome ∧ (e.find? k).isSome) := by
    simp only [Finset.disjoint_left, Dictionary.mem_keys, not_and]
  refine ⟨find?_merge a b, ?_, hassoc a b c, hself a, ?_, ?_, rfl, max_size_le_size_merge a b,
    size_merge_le a b, ?_⟩
  · intro systems uris hsystems huris
    exact addNew_eq_merge a b hsystems huris
  · rw [hassoc, hself]
  · simp only [merge, empty, Dictionary.empty_merge]
  · rw [size_merge_eq_add_iff, hdisjoint, hdisjoint]

/-- Has a place for the document "d" and for the name "n". -/
def exampleFirst : Catalog := ofEntries [.system "d" "first/d", .uri "n" "first/n"]

/-- Has a place for the name "d", and another one for the name "n". -/
def exampleSecond : Catalog := ofEntries [.uri "n" "second/n", .uri "d" "second/d"]

/-- The names of the second catalog are taken in backwards. One of them is there
already, and the other one stands behind the document. -/
theorem the_document_stands_before_the_name_that_is_merged_in :
    (exampleFirst.addNew [] [("n", "second/n"), ("d", "second/d")]).find? "d" = some "first/d" ∧
      (exampleFirst.merge exampleSecond).size = 3 ∧
      (exampleFirst.merge exampleSecond).size ≠ exampleFirst.size + exampleSecond.size := by
  obtain ⟨hfind, horder, _, _, _, _, _, _, _, hsize⟩ :=
    a_merge_answers_like_the_first_and_then_like_the_second exampleFirst exampleSecond empty
  have huris : [("n", "second/n"), ("d", "second/d")].Perm exampleSecond.uris.entries :=
    .swap _ _ _
  refine ⟨?_, by decide, ?_⟩
  · have hmerge := horder [] _ (.refl _) huris
    rw [hmerge, hfind]
    rfl
  · rw [ne_eq, hsize]
    intro hdisjoint
    exact hdisjoint.2 "n" ⟨by decide, by decide⟩

end Catalog

end Wsdl
