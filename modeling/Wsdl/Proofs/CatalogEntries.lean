-- What the files of catalogs come to. The entries of a catalog stand in the order
-- of its document, those of a group where the group is, and those of a further
-- catalog where it is named. The last entry for a key is the one that counts.
import Wsdl.Proofs.CatalogCircles

namespace Wsdl.Catalog

open Xml (Element)

variable {fs fs' : FileSystem} {p q : FilePath} {e root : Element} {elements rest : List Element}
  {es : List Entry}

/-! ## Catalog documents -/

/-- The file at a path is a catalog with this root: it can be read, what it holds
is well formed, and the root is called catalog. -/
structure IsRoot (fs : FileSystem) (p : FilePath) (root : Element) : Prop where
  document : ∃ s, fs.readText p = .ok s ∧ Xml.Document.parse .standard s = .ok (some root)
  name : root.localName = "catalog"

theorem itemsOfFile_of_isRoot (h : IsRoot fs p root) :
    itemsOfFile fs p = .ok (itemsAll root.children) := by
  obtain ⟨s, hread, hparse⟩ := h.document
  have htext : itemsOfText s = .ok (itemsAll root.children) := by
    simp only [itemsOfText, hparse, bind, Except.bind, h.name, if_true]
    rfl
  rw [itemsOfFile, hread]
  exact htext

theorem exists_isRoot {items : List Item} (h : itemsOfFile fs p = .ok items) :
    ∃ root, IsRoot fs p root ∧ items = itemsAll root.children := by
  unfold itemsOfFile at h
  cases hread : fs.readText p with
  | error f =>
    rw [hread] at h
    cases h
  | ok s =>
    rw [hread] at h
    replace h : itemsOfText s = .ok items := h
    unfold itemsOfText at h
    rcases hparse : Xml.Document.parse .standard s with err | _ | root
    · rw [hparse] at h
      cases h
    · rw [hparse] at h
      cases h
    · simp only [hparse, bind, Except.bind] at h
      split at h
      · next hname => exact ⟨root, ⟨⟨s, hread, hparse⟩, hname⟩, (Except.ok.inj h).symm⟩
      · cases h

/-- What is no catalog gives an error instead of items. -/
theorem exists_error (h : ∀ root, ¬ IsRoot fs p root) : ∃ err, itemsOfFile fs p = .error err := by
  cases hitems : itemsOfFile fs p with
  | error err => exact ⟨err, rfl⟩
  | ok items =>
    obtain ⟨root, hroot, _⟩ := exists_isRoot hitems
    exact absurd hroot (h root)

/-! ## The entries of elements -/

/-- The element lacks an attribute, or is called otherwise than what catalogs
hold. -/
inductive SaysNothing (e : Element) : Prop
  | system (hname : e.localName = "system")
      (hnone : e.attribute? "systemId" = none ∨ e.attribute? "uri" = none)
  | uri (hname : e.localName = "uri")
      (hnone : e.attribute? "name" = none ∨ e.attribute? "uri" = none)
  | next (hname : e.localName = "nextCatalog") (hnone : e.attribute? "catalog" = none)
  | other (hname : e.localName ∉ ["system", "uri", "nextCatalog", "group"])

/-- The entries of elements in the catalog file at a path, in document order. The
places in it are seen from its directory, and so are the catalogs that it names. -/
inductive Splices (fs : FileSystem) : FilePath → List Element → List Entry → Prop
  | nil {p : FilePath} : Splices fs p [] []
  | nothing {p : FilePath} {e : Element} {rest : List Element} {es : List Entry}
      (hnothing : SaysNothing e) (hrest : Splices fs p rest es) : Splices fs p (e :: rest) es
  | system {p : FilePath} {e : Element} {rest : List Element} {es : List Entry} {id uri : String}
      (hname : e.localName = "system") (hid : e.attribute? "systemId" = some id)
      (huri : e.attribute? "uri" = some uri) (hrest : Splices fs p rest es) :
      Splices fs p (e :: rest) (.system id (locate p.parent? uri) :: es)
  | uri {p : FilePath} {e : Element} {rest : List Element} {es : List Entry} {name uri : String}
      (hname : e.localName = "uri") (hkey : e.attribute? "name" = some name)
      (huri : e.attribute? "uri" = some uri) (hrest : Splices fs p rest es) :
      Splices fs p (e :: rest) (.uri name (locate p.parent? uri) :: es)
  | group {p : FilePath} {e : Element} {rest : List Element} {inner es : List Entry}
      (hname : e.localName = "group") (hinner : Splices fs p e.children inner)
      (hrest : Splices fs p rest es) : Splices fs p (e :: rest) (inner ++ es)
  | unreadable {p : FilePath} {e : Element} {rest : List Element} {es : List Entry} {path : String}
      (hname : e.localName = "nextCatalog") (hpath : e.attribute? "catalog" = some path)
      (hnone : ∀ root, ¬ IsRoot fs (nextPath p.parent? path) root)
      (hrest : Splices fs p rest es) : Splices fs p (e :: rest) es
  | next {p : FilePath} {e root : Element} {rest : List Element} {inner es : List Entry}
      {path : String} (hname : e.localName = "nextCatalog")
      (hpath : e.attribute? "catalog" = some path)
      (hroot : IsRoot fs (nextPath p.parent? path) root)
      (hinner : Splices fs (nextPath p.parent? path) root.children inner)
      (hrest : Splices fs p rest es) : Splices fs p (e :: rest) (inner ++ es)

theorem items_of_group (h : e.localName = "group") : items e = itemsAll e.children := by
  cases e
  rw [items]
  exact if_pos (beq_iff_eq.2 h)

theorem items_of_not_group (h : e.localName ≠ "group") : items e = itemOf e := by
  cases e
  rw [items]
  exact if_neg fun hname => h (beq_iff_eq.1 hname)

theorem items_eq_nil (h : SaysNothing e) : items e = [] := by
  cases h with
  | system hname hnone =>
    rw [items_of_not_group (by simp [hname]), itemOf]
    rcases hnone with hnone | hnone <;> simp [hname, hnone]
  | uri hname hnone =>
    rw [items_of_not_group (by simp [hname]), itemOf]
    rcases hnone with hnone | hnone <;> simp [hname, hnone]
  | next hname hnone =>
    rw [items_of_not_group (by simp [hname]), itemOf]
    simp [hname, hnone]
  | other hname =>
    simp only [List.mem_cons, List.not_mem_nil, or_false, not_or] at hname
    rw [items_of_not_group hname.2.2.2, itemOf]
    simp [hname]

theorem Loads.append {directory : Option FilePath} {items later : List Item}
    {es es' : List Entry} (h : Loads fs directory items es) (h' : Loads fs directory later es') :
    Loads fs directory (items ++ later) (es ++ es') := by
  induction h with
  | nil => exact h'
  | system _ ih => exact .system (ih h')
  | uri _ ih => exact .uri (ih h')
  | unreadable hitems _ ih => exact .unreadable hitems (ih h')
  | next hitems hinner _ _ ih =>
    rw [List.append_assoc]
    exact .next hitems hinner (ih h')

/-- The entries of elements are those that are loaded. -/
theorem loads_of_splices (h : Splices fs p elements es) :
    Loads fs p.parent? (itemsAll elements) es := by
  induction h with
  | nil => exact .nil
  | nothing hnothing _ ih =>
    rwa [itemsAll, items_eq_nil hnothing, List.nil_append]
  | system hname hid huri _ ih =>
    rw [itemsAll, items_of_not_group (by simp [hname]), itemOf]
    simp only [hname, hid, huri]
    exact .system ih
  | uri hname hkey huri _ ih =>
    rw [itemsAll, items_of_not_group (by simp [hname]), itemOf]
    simp only [hname, hkey, huri]
    exact .uri ih
  | group hname _ _ ihInner ih =>
    rw [itemsAll, items_of_group hname]
    exact ihInner.append ih
  | unreadable hname hpath hnone _ ih =>
    obtain ⟨err, herr⟩ := exists_error hnone
    rw [itemsAll, items_of_not_group (by simp [hname]), itemOf]
    simp only [hname, hpath]
    exact .unreadable herr ih
  | next hname hpath hroot _ _ ihInner ih =>
    rw [itemsAll, items_of_not_group (by simp [hname]), itemOf]
    simp only [hname, hpath]
    exact .next (itemsOfFile_of_isRoot hroot) ihInner ih

theorem Splices.unique {es' : List Entry} (h : Splices fs p elements es)
    (h' : Splices fs p elements es') : es = es' :=
  (loads_of_splices h).unique (loads_of_splices h')

/-! ## Trees of catalogs -/

/-- Every way along the names of catalogs comes to an end. Each catalog names
finitely many, so the catalogs that are led to form a finite tree. -/
inductive IsTree (fs : FileSystem) : FilePath → Prop
  | intro {p : FilePath} (h : ∀ q, Names fs p q → IsTree fs q) : IsTree fs p

/-- Each catalog that the items name has its entries. -/
def HasEntries (fs : FileSystem) (p : FilePath) (items : List Item) : Prop :=
  ∀ path root, .next path ∈ items → IsRoot fs (nextPath p.parent? path) root →
    ∃ inner, Splices fs (nextPath p.parent? path) root.children inner

/-- An element that is no group has its entries if the catalog that it may name
has. -/
theorem exists_splices_cons (hgroup : e.localName ≠ "group") (hnext : HasEntries fs p (itemOf e))
    (hrest : Splices fs p rest es) : ∃ es', Splices fs p (e :: rest) es' := by
  by_cases hsystem : e.localName = "system"
  · cases hid : e.attribute? "systemId" with
    | none => exact ⟨es, .nothing (.system hsystem (.inl hid)) hrest⟩
    | some id =>
      cases huri : e.attribute? "uri" with
      | none => exact ⟨es, .nothing (.system hsystem (.inr huri)) hrest⟩
      | some uri => exact ⟨_, .system hsystem hid huri hrest⟩
  by_cases huriName : e.localName = "uri"
  · cases hkey : e.attribute? "name" with
    | none => exact ⟨es, .nothing (.uri huriName (.inl hkey)) hrest⟩
    | some name =>
      cases huri : e.attribute? "uri" with
      | none => exact ⟨es, .nothing (.uri huriName (.inr huri)) hrest⟩
      | some uri => exact ⟨_, .uri huriName hkey huri hrest⟩
  by_cases hnextName : e.localName = "nextCatalog"
  · cases hpath : e.attribute? "catalog" with
    | none => exact ⟨es, .nothing (.next hnextName hpath) hrest⟩
    | some path =>
      by_cases hroot : ∃ root, IsRoot fs (nextPath p.parent? path) root
      · obtain ⟨root, hroot⟩ := hroot
        have hmem : .next path ∈ itemOf e := by simp [itemOf, hnextName, hpath]
        obtain ⟨inner, hinner⟩ := hnext path root hmem hroot
        exact ⟨_, .next hnextName hpath hroot hinner hrest⟩
      · exact ⟨es, .unreadable hnextName hpath (not_exists.1 hroot) hrest⟩
  · exact ⟨es, .nothing (.other (by simp [hsystem, huriName, hnextName, hgroup])) hrest⟩

mutual

theorem exists_splices_element (fs : FileSystem) (p : FilePath) {rest : List Element}
    {es : List Entry} (hrest : Splices fs p rest es) :
    (e : Element) → HasEntries fs p (items e) → ∃ es', Splices fs p (e :: rest) es'
  | ⟨n, as, t, cs, s, pos⟩, hnext => by
    by_cases hgroup : (Element.mk n as t cs s pos).localName = "group"
    · rw [items_of_group hgroup] at hnext
      obtain ⟨inner, hinner⟩ := exists_splices_all fs p cs hnext
      exact ⟨_, .group hgroup hinner hrest⟩
    · rw [items_of_not_group hgroup] at hnext
      exact exists_splices_cons hgroup hnext hrest

theorem exists_splices_all (fs : FileSystem) (p : FilePath) :
    (elements : List Element) → HasEntries fs p (itemsAll elements) →
      ∃ es, Splices fs p elements es
  | [], _ => ⟨[], .nil⟩
  | e :: rest, hnext => by
    rw [itemsAll] at hnext
    obtain ⟨es, hrest⟩ := exists_splices_all fs p rest fun path root hmem =>
      hnext path root (List.mem_append_right _ hmem)
    exact exists_splices_element fs p hrest e fun path root hmem =>
      hnext path root (List.mem_append_left _ hmem)

end

/-- A tree of catalogs is followed to its end. -/
theorem exists_splices (h : IsTree fs p) :
    ∀ root, IsRoot fs p root → ∃ es, Splices fs p root.children es := by
  induction h with
  | @intro p _ ih =>
    intro root hroot
    refine exists_splices_all fs p root.children fun path inner hmem hinner => ?_
    exact ih _ ⟨_, itemsOfFile_of_isRoot hroot, path, hmem, rfl⟩ inner hinner

/-- Entries of elements are what the catalog file is loaded as. -/
theorem ofFile_of_splices (hroot : IsRoot fs p root) (h : Splices fs p root.children es) :
    ofFile fs p = some (.ok (ofEntries es)) :=
  ofFile_eq_some_iff.2 (.ok (itemsOfFile_of_isRoot hroot) (loads_of_splices h))

/-! ## What is no catalog -/

/-- The same catalogs, and nothing else but catalogs that hold nothing. These stand
in for what is no catalog. -/
structure StandsIn (fs fs' : FileSystem) : Prop where
  kept : ∀ p root, IsRoot fs p root → IsRoot fs' p root
  empty : ∀ p root, IsRoot fs' p root → IsRoot fs p root ∨ root.children = []

theorem Splices.standsIn (h : Splices fs p elements es) (hstands : StandsIn fs fs') :
    Splices fs' p elements es := by
  induction h with
  | nil => exact .nil
  | nothing hnothing _ ih => exact .nothing hnothing ih
  | system hname hid huri _ ih => exact .system hname hid huri ih
  | uri hname hkey huri _ ih => exact .uri hname hkey huri ih
  | group hname _ _ ihInner ih => exact .group hname ihInner ih
  | @unreadable p e rest es path hname hpath hnone _ ih =>
    by_cases hroot : ∃ root, IsRoot fs' (nextPath p.parent? path) root
    · obtain ⟨root, hroot⟩ := hroot
      have hempty : root.children = [] :=
        (hstands.empty _ root hroot).resolve_left (hnone root)
      have hinner : Splices fs' (nextPath p.parent? path) root.children [] := by
        rw [hempty]
        exact .nil
      exact .next hname hpath hroot hinner ih
    · exact .unreadable hname hpath (not_exists.1 hroot) ih
  | next hname hpath hroot _ _ ihInner ih =>
    exact .next hname hpath (hstands.kept _ _ hroot) ihInner ih

/-! ## The entry that counts -/

/-- The place that an entry gives to an identifier of a document. -/
def Entry.systemPlace? (key : String) : Entry → Option String
  | .system id place => if key = id then some place else none
  | .uri _ _ => none

/-- The place that an entry gives to a name. -/
def Entry.uriPlace? (key : String) : Entry → Option String
  | .system _ _ => none
  | .uri name place => if key = name then some place else none

/-- The last place that entries give. -/
def lastPlace? (place? : Entry → Option String) (es : List Entry) : Option String :=
  (es.filterMap place?).getLast?

theorem lastPlace?_cons (place? : Entry → Option String) (e : Entry) (es : List Entry) :
    lastPlace? place? (e :: es) = (lastPlace? place? es).or (place? e) := by
  rw [lastPlace?, lastPlace?, List.filterMap_cons]
  cases place? e with
  | none => simp
  | some v => cases h : (es.filterMap place?).getLast? <;> simp [List.getLast?_cons, h]

theorem find?_systems_add (c : Catalog) (e : Entry) (key : String) :
    (c.add e).systems.find? key = (e.systemPlace? key).or (c.systems.find? key) := by
  cases e with
  | system id uri =>
    rw [add, Entry.systemPlace?, Dictionary.find?_insert]
    split <;> rfl
  | uri name uri => rw [add, addUri, Entry.systemPlace?, Option.none_or]

theorem find?_uris_add (c : Catalog) (e : Entry) (key : String) :
    (c.add e).uris.find? key = (e.uriPlace? key).or (c.uris.find? key) := by
  cases e with
  | system id uri => rw [add, Entry.uriPlace?, Option.none_or]
  | uri name uri =>
    rw [add, addUri, Entry.uriPlace?, Dictionary.find?_insert]
    split <;> rfl

/-- Where each entry goes before what was there, the last one counts. -/
theorem find?_foldl_add_eq {part : Catalog → Dictionary} {place? : Entry → Option String}
    {key : String}
    (hadd : ∀ c e, (part (c.add e)).find? key = (place? e).or ((part c).find? key))
    (c : Catalog) (es : List Entry) :
    (part (es.foldl add c)).find? key = (lastPlace? place? es).or ((part c).find? key) := by
  induction es generalizing c with
  | nil => rfl
  | cons e es ih => rw [List.foldl_cons, ih, lastPlace?_cons, Option.or_assoc, hadd]

/-! ## The law -/

/-- A catalog file from which the names of catalogs lead to a finite tree has its
entries in the order of the documents, with groups and further catalogs where they
stand. It is loaded as these. What is no catalog gives as little as an empty one.
For a key the last place for an identifier of a document counts, or else the last
one for a name. -/
theorem a_catalog_file_gives_the_entries_of_its_tree (htree : IsTree fs p)
    (hroot : IsRoot fs p root) :
    ∃ es, Splices fs p root.children es ∧
      (∀ es', Splices fs p root.children es' → es' = es) ∧
      ofFile fs p = some (.ok (ofEntries es)) ∧
      (∀ fs', StandsIn fs fs' → ofFile fs' p = some (.ok (ofEntries es))) ∧
      ∀ key,
        (ofEntries es).systems.find? key = lastPlace? (Entry.systemPlace? key) es ∧
        (ofEntries es).uris.find? key = lastPlace? (Entry.uriPlace? key) es ∧
        (ofEntries es).find? key = (lastPlace? (Entry.systemPlace? key) es).or
          (lastPlace? (Entry.uriPlace? key) es) := by
  obtain ⟨es, hes⟩ := exists_splices htree root hroot
  refine ⟨es, hes, fun es' hes' => hes'.unique hes, ofFile_of_splices hroot hes, ?_, fun key => ?_⟩
  · intro fs' hstands
    exact ofFile_of_splices (hstands.kept p root hroot) (hes.standsIn hstands)
  · have hsystems : (ofEntries es).systems.find? key = lastPlace? (Entry.systemPlace? key) es := by
      rw [ofEntries, find?_foldl_add_eq fun c e => find?_systems_add c e key]
      exact Option.or_none
    have huris : (ofEntries es).uris.find? key = lastPlace? (Entry.uriPlace? key) es := by
      rw [ofEntries, find?_foldl_add_eq fun c e => find?_uris_add c e key]
      exact Option.or_none
    exact ⟨hsystems, huris, by rw [find?, hsystems, huris]⟩

/-- A catalog in the directory "c", one in a directory of that, and one that is
missing. -/
def exampleArchive : FileSystem where
  workingDirectory := .ofText "/"
  contents p :=
    if p = .ofText "c/a" then
      .ok (Text.encodeText
        "<catalog><uri name='n' uri='x'/><nextCatalog catalog='d/b'/></catalog>")
    else if p = .ofText "c/d/b" then
      .ok (Text.encodeText
        "<catalog><group><uri name='n' uri='y'/></group><nextCatalog catalog='z'/></catalog>")
    else .error .notFound

def exampleArchiveEntries : List Entry := [.uri "n" "c/x", .uri "n" "c/d/y"]

/-- What the inner catalog says is seen from its own directory, and it counts. The
missing catalog is no matter. -/
theorem the_entry_of_the_inner_catalog_counts :
    ∃ root, IsTree exampleArchive (.ofText "c/a") ∧ IsRoot exampleArchive (.ofText "c/a") root ∧
      Splices exampleArchive (.ofText "c/a") root.children exampleArchiveEntries ∧
      ofFile exampleArchive (.ofText "c/a") = some (.ok (ofEntries exampleArchiveEntries)) ∧
      (ofEntries exampleArchiveEntries).find? "n" = some "c/d/y" := by
  have hitems : itemsOfFile exampleArchive (.ofText "c/a") = .ok [.uri "n" "x", .next "d/b"] := by
    decide +kernel
  have hinner : itemsOfFile exampleArchive (.ofText "c/d/b") = .ok [.uri "n" "y", .next "z"] := by
    decide +kernel
  have hmissing : itemsOfFile exampleArchive (.ofText "c/d/z")
      = .error (.resource (.unreadableCatalog "c/d/z" .notFound)) := by decide +kernel
  have hnextInner : nextPath (FilePath.ofText "c/a").parent? "d/b" = .ofText "c/d/b" := by cbv
  have hnextMissing : nextPath (FilePath.ofText "c/d/b").parent? "z" = .ofText "c/d/z" := by cbv
  have htree : IsTree exampleArchive (.ofText "c/a") := by
    refine .intro ?_
    rintro q ⟨items, hitems', path, hpath, rfl⟩
    obtain rfl := Except.ok.inj (hitems.symm.trans hitems')
    obtain rfl : path = "d/b" := by simpa using hpath
    rw [hnextInner]
    refine .intro ?_
    rintro q ⟨items, hitems', path, hpath, rfl⟩
    obtain rfl := Except.ok.inj (hinner.symm.trans hitems')
    obtain rfl : path = "z" := by simpa using hpath
    rw [hnextMissing]
    refine .intro ?_
    rintro q ⟨items, hitems', _⟩
    cases hmissing.symm.trans hitems'
  have hloads : Loads exampleArchive (FilePath.ofText "c/a").parent? [.uri "n" "x", .next "d/b"]
      exampleArchiveEntries := by
    have hx : locate (FilePath.ofText "c/a").parent? "x" = "c/x" := by cbv
    have hy : locate (FilePath.ofText "c/d/b").parent? "y" = "c/d/y" := by cbv
    rw [exampleArchiveEntries, ← hx, ← hy]
    have hinside : Loads exampleArchive (FilePath.ofText "c/d/b").parent?
        [.uri "n" "y", .next "z"] [.uri "n" (locate (FilePath.ofText "c/d/b").parent? "y")] :=
      .uri (.unreadable (hnextMissing ▸ hmissing) .nil)
    rw [← hnextInner] at hinner hinside
    exact .uri (Loads.next hinner hinside .nil)
  obtain ⟨root, hroot, hchildren⟩ := exists_isRoot hitems
  obtain ⟨es, hes, _, hfile, _, hfind⟩ :=
    a_catalog_file_gives_the_entries_of_its_tree htree hroot
  obtain rfl : es = exampleArchiveEntries := (loads_of_splices hes).unique (hchildren ▸ hloads)
  refine ⟨root, htree, hroot, hes, hfile, ?_⟩
  rw [(hfind "n").2.2]
  decide

end Wsdl.Catalog
