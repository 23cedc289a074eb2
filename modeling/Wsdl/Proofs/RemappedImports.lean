-- Where the imports are looked for that a catalog has a place for. Each such
-- place was written in a catalog file and is seen from the directory of that
-- file. The path that comes of it is looked for from the document though,
-- unless it starts at the root.
import Mathlib
import Wsdl.Proofs.CatalogCircles
import Wsdl.Proofs.PlainPaths
import Wsdl.Reader.Imports

namespace Wsdl

open Relation (ReflTransGen)

/-! ## Where the places of a catalog come from -/

namespace Catalog

variable {fs : FileSystem} {p : FilePath} {key place : String}

/-- The entry gives the key this place, as an identifier or as a name. -/
def Entry.Gives (e : Entry) (key place : String) : Prop :=
  e = .system key place ∨ e = .uri key place

/-- The catalog file at a path writes the place down for the key. -/
def Writes (fs : FileSystem) (p : FilePath) (key uri : String) : Prop :=
  ∃ items, itemsOfFile fs p = .ok items ∧ (.system key uri ∈ items ∨ .uri key uri ∈ items)

/-- The place comes from a catalog that `p` leads to, and is seen from the
directory of that one. -/
def ComesFrom (fs : FileSystem) (p : FilePath) (key place : String) : Prop :=
  ∃ q uri, ReflTransGen (Names fs) p q ∧ Writes fs q key uri ∧ place = locate q.parent? uri

theorem find?_add {c : Catalog} {e : Entry} (h : (c.add e).find? key = some place) :
    c.find? key = some place ∨ e.Gives key place := by
  cases e with
  | system id uri =>
    simp only [add, find?, Dictionary.find?_insert] at h ⊢
    by_cases hkey : key = id
    · subst hkey
      simp only [if_true, Option.some_or, Option.some.injEq] at h
      subst h
      exact .inr (.inl rfl)
    · simp only [hkey, if_false] at h
      exact .inl h
  | uri name uri =>
    simp only [add, addUri, find?, Dictionary.find?_insert] at h ⊢
    by_cases hkey : key = name
    · subst hkey
      cases hsystem : c.systems.find? key with
      | some found =>
        rw [hsystem] at h
        exact .inl h
      | none =>
        simp only [hsystem, if_true, Option.none_or, Option.some.injEq] at h
        subst h
        exact .inr (.inr rfl)
    · simp only [hkey, if_false] at h
      exact .inl h

/-- What is found was there before or comes from one of the entries. -/
theorem find?_foldl_add {es : List Entry} {c : Catalog}
    (h : (es.foldl add c).find? key = some place) :
    c.find? key = some place ∨ ∃ e ∈ es, e.Gives key place := by
  induction es generalizing c with
  | nil => exact .inl h
  | cons e es ih =>
    rcases ih h with hbefore | ⟨e', he', hgives⟩
    · rcases find?_add hbefore with hc | hgives
      · exact .inl hc
      · exact .inr ⟨e, List.mem_cons_self, hgives⟩
    · exact .inr ⟨e', List.mem_cons_of_mem _ he', hgives⟩

/-- The entries of some of a catalog's items come from it and from those that it
leads to. -/
theorem Loads.comesFrom {directory : Option FilePath} {items : List Item} {es : List Entry}
    (h : Loads fs directory items es) :
    ∀ p all, p.parent? = directory → itemsOfFile fs p = .ok all → items ⊆ all →
      ∀ e ∈ es, ∀ key place, e.Gives key place → ComesFrom fs p key place := by
  induction h with
  | nil =>
    intro p all _ _ _ e he
    cases he
  | @system directory id uri rest es hrest ih =>
    rintro p all rfl hall hsub e he key place hgives
    rcases List.mem_cons.1 he with rfl | he
    · rcases hgives with heq | heq
      · obtain ⟨rfl, rfl⟩ := Entry.system.inj heq
        exact ⟨p, uri, .refl, ⟨all, hall, .inl (hsub List.mem_cons_self)⟩, rfl⟩
      · cases heq
    · exact ih p all rfl hall (List.subset_of_cons_subset hsub) e he key place hgives
  | @uri directory name uri rest es hrest ih =>
    rintro p all rfl hall hsub e he key place hgives
    rcases List.mem_cons.1 he with rfl | he
    · rcases hgives with heq | heq
      · cases heq
      · obtain ⟨rfl, rfl⟩ := Entry.uri.inj heq
        exact ⟨p, uri, .refl, ⟨all, hall, .inr (hsub List.mem_cons_self)⟩, rfl⟩
    · exact ih p all rfl hall (List.subset_of_cons_subset hsub) e he key place hgives
  | unreadable _ _ ih =>
    rintro p all rfl hall hsub
    exact ih p all rfl hall (List.subset_of_cons_subset hsub)
  | @next directory path rest items inner es hitems hinner hrest ihInner ihRest =>
    rintro p all rfl hall hsub e he key place hgives
    rcases List.mem_append.1 he with he | he
    · have hnames : Names fs p (nextPath p.parent? path) :=
        ⟨all, hall, path, hsub List.mem_cons_self, rfl⟩
      obtain ⟨q, uri, hreach, hwrites, hplace⟩ :=
        ihInner _ items rfl hitems (List.Subset.refl _) e he key place hgives
      exact ⟨q, uri, .head hnames hreach, hwrites, hplace⟩
    · exact ihRest p all rfl hall (List.subset_of_cons_subset hsub) e he key place hgives

/-- Whatever a catalog from a file has was written down in a file. -/
theorem comesFrom_of_find? {c : Catalog} (hload : LoadsFile fs p (.ok c))
    (h : c.find? key = some place) : ComesFrom fs p key place := by
  cases hload with
  | ok hitems hloads =>
    rcases find?_foldl_add h with hempty | ⟨e, he, hgives⟩
    · cases hempty
    · exact hloads.comesFrom p _ rfl hitems (List.Subset.refl _) e he key place hgives

/-! ## Places beside a catalog -/

theorem locate_of_not_mem {directory : FilePath} {uri : String} (h : ':' ∉ uri.toList) :
    locate (some directory) uri = (directory.join (.ofText uri)).text := by
  rw [locate, Iri.parse_eq_error h]
  rfl

end Catalog

namespace FilePath

/-- Where both paths are texts, so is the path of one seen from the other. -/
theorem exists_join_ofText (d s : String) :
    ∃ t : String, (ofText d).join (ofText s) = .ofText t ∧
      ∀ c ∈ t.toList, c ∈ d.toList ∨ c = '/' ∨ c ∈ s.toList := by
  have hofList : ∀ cs : List Char, ofText (String.ofList cs) = ⟨Text.encode cs⟩ := by
    intro cs
    rw [ofText, Text.encodeText, String.toList_ofList]
  unfold join
  split
  · exact ⟨s, rfl, fun c hc => .inr (.inr hc)⟩
  · split
    · refine ⟨String.ofList (d.toList ++ s.toList), ?_, ?_⟩
      · rw [hofList, Text.encode_append]
        rfl
      · intro c hc
        rw [String.toList_ofList, List.mem_append] at hc
        exact hc.imp_right .inr
    · refine ⟨String.ofList (d.toList ++ '/' :: s.toList), ?_, ?_⟩
      · rw [hofList, Text.encode_append]
        rfl
      · intro c hc
        rw [String.toList_ofList, List.mem_append, List.mem_cons] at hc
        exact hc

end FilePath

/-! ## Where an import is looked for -/

/-- What a catalog has for an import. -/
def Catalog.ofImport? (c : Catalog) (ns location : Option String) : Option String :=
  (location.bind c.find?).or (ns.bind c.find?)

namespace Sources

variable {s : Sources} {c : Catalog} {ns location : Option String} {mapped : String}

theorem reference?_eq (hcatalog : s.catalog = some c)
    (hmapped : c.ofImport? ns location = some mapped) : s.reference? ns location = some mapped := by
  unfold Catalog.ofImport? at hmapped
  simp only [reference?, hcatalog, Option.bind_some, hmapped, Option.some_or]

theorem location?_eq {base : Option Iri} {l : Location}
    (href : s.reference? ns location = some mapped) (hl : Location.resolve base mapped = .ok l) :
    s.location? base ns location = some l := by
  simp only [location?, href, hl, Option.bind_eq_bind, Option.bind_some]
  rfl

theorem exists_key_of_ofImport? (h : c.ofImport? ns location = some mapped) :
    ∃ key, (location = some key ∨ ns = some key) ∧ c.find? key = some mapped := by
  rcases Option.or_eq_some_iff.1 h with h | ⟨_, h⟩
  · obtain ⟨key, hkey, hfind⟩ := Option.bind_eq_some_iff.1 h
    exact ⟨key, .inl hkey, hfind⟩
  · obtain ⟨key, hkey, hfind⟩ := Option.bind_eq_some_iff.1 h
    exact ⟨key, .inr hkey, hfind⟩

section

variable {directory : FilePath} {names : List (List Char)} (hne : names ≠ [])
  (hnames : ∀ n ∈ names, IsPlain n)

include hnames in
/-- Without a base, the place is a path from the working directory. -/
theorem location?_none {d : String} (hd : ':' ∉ d.toList)
    (href : s.reference? ns location
      = some (Catalog.locate (some (.ofText d)) (namesText false names))) :
    s.location? none ns location
      = some (.path ((FilePath.ofText d).join (.ofText (namesText false names)))) := by
  have hcolon := Location.colon_not_mem_namesText false hnames
  obtain ⟨t, ht, hchars⟩ := FilePath.exists_join_ofText d (namesText false names)
  have hcolon' : ':' ∉ t.toList := by
    intro hmem
    rcases hchars _ hmem with h | h | h
    · exact hd h
    · cases h
    · exact hcolon h
  rw [Catalog.locate_of_not_mem hcolon, ht, FilePath.text_ofText] at href
  rw [ht]
  exact location?_eq href (Location.resolve_none hcolon')

include hne hnames in
/-- What a catalog in a directory of plain names has for plain names. -/
theorem locate_ofNames {rooted : Bool} {outer : List (List Char)}
    (houter : ∀ n ∈ outer, IsPlain n) :
    Catalog.locate (some (.ofNames rooted outer)) (namesText false names)
      = namesText rooted (outer ++ names) := by
  have hcolon := Location.colon_not_mem_namesText false hnames
  have hjoin := FilePath.ofNames_join rooted hne houter hnames
  rw [Catalog.locate_of_not_mem hcolon]
  exact (congrArg FilePath.text hjoin).trans (FilePath.text_ofText _)

include hne hnames in
/-- A place from the root on is the same for all documents on this machine. -/
theorem location?_rooted {outer : List (List Char)} (houter : ∀ n ∈ outer, IsPlain n) {b : Iri}
    (hb : b.IsLocal)
    (href : s.reference? ns location
      = some (Catalog.locate (some (.ofNames true outer)) (namesText false names))) :
    s.location? (some b) ns location
      = some (.path ((FilePath.ofNames true outer).join (.ofText (namesText false names)))) := by
  have hall := List.forall_mem_append.2 ⟨houter, hnames⟩
  have hplace : (FilePath.ofNames true outer).join (.ofText (namesText false names))
      = .ofNames true (outer ++ names) := FilePath.ofNames_join true hne houter hnames
  rw [locate_ofNames hne hnames houter] at href
  rw [hplace]
  exact location?_eq href
    (Location.resolve_rooted hb (List.append_ne_nil_of_right_ne_nil _ hne) hall)

include hne hnames in
/-- Any other place is seen from the directory of the document. -/
theorem location?_beside {outer docs : List (List Char)} {doc : List Char}
    (houter : ∀ n ∈ outer, IsPlain n) (hdocs : ∀ n ∈ docs ++ [doc], IsPlain n)
    {document : FilePath} (hdocument : s.files.absolute document = .ofNames true (docs ++ [doc]))
    (href : s.reference? ns location
      = some (Catalog.locate (some (.ofNames false outer)) (namesText false names))) :
    s.location? ((Location.path document).base? s.files) ns location
      = some (.path ((FilePath.ofNames true docs).join
          ((FilePath.ofNames false outer).join (.ofText (namesText false names))))) := by
  have hall := List.forall_mem_append.2 ⟨houter, hnames⟩
  have hne' : outer ++ names ≠ [] := List.append_ne_nil_of_right_ne_nil _ hne
  have hplace : (FilePath.ofNames false outer).join (.ofText (namesText false names))
      = .ofNames false (outer ++ names) := FilePath.ofNames_join false hne houter hnames
  have hdirectory : ∀ n ∈ docs, IsPlain n := (List.forall_mem_append.1 hdocs).1
  have hbase : (Location.path document).base? s.files = some (Iri.fileIri (docs ++ [doc])) := by
    rw [Location.base?, hdocument]
    exact Iri.ofFilePath?_ofNames (by simp) hdocs
  rw [locate_ofNames hne hnames houter] at href
  rw [hbase, hplace, FilePath.ofNames_join true hne' hdirectory hall]
  exact location?_eq href (Location.resolve_names hne' hdocs hall)

end

/-! ## The law -/

/-- A place that a loaded catalog has for an import was written down in a
catalog file, and is seen from the directory of that file. Without a base it is
looked for there. So it is from any document on this machine if the directory
starts at the root; if not, it is looked for from the directory of the document,
as if that were the working directory. -/
theorem remapped_imports_are_looked_for_from_the_document {p : FilePath}
    (hcatalog : s.catalog = some c) (hload : Catalog.ofFile s.files p = some (.ok c))
    (hmapped : c.ofImport? ns location = some mapped) :
    (∃ key, (location = some key ∨ ns = some key) ∧ Catalog.ComesFrom s.files p key mapped) ∧
    ∀ (directory : FilePath) (names : List (List Char)), names ≠ [] → (∀ n ∈ names, IsPlain n) →
      mapped = Catalog.locate (some directory) (namesText false names) →
      let place := directory.join (.ofText (namesText false names))
      (∀ d, directory = .ofText d → ':' ∉ d.toList →
        s.location? none ns location = some (.path place)) ∧
      ∀ outer, (∀ n ∈ outer, IsPlain n) →
        (directory = .ofNames true outer → ∀ b : Iri, b.IsLocal →
          s.location? (some b) ns location = some (.path place)) ∧
        (directory = .ofNames false outer → ∀ document docs doc, (∀ n ∈ docs ++ [doc], IsPlain n) →
          s.files.absolute document = .ofNames true (docs ++ [doc]) →
          s.location? ((Location.path document).base? s.files) ns location
            = some (.path ((FilePath.ofNames true docs).join place))) := by
  have href := reference?_eq hcatalog hmapped
  constructor
  · obtain ⟨key, hkey, hfind⟩ := exists_key_of_ofImport? hmapped
    exact ⟨key, hkey, Catalog.comesFrom_of_find? (Catalog.ofFile_eq_some_iff.1 hload) hfind⟩
  · intro directory names hne hnames hplace
    rw [hplace] at href
    refine ⟨?_, fun outer houter => ⟨?_, ?_⟩⟩
    · rintro d rfl hd
      exact location?_none hnames hd href
    · rintro rfl b hb
      exact location?_rooted hne hnames houter hb href
    · rintro rfl document docs doc hdocs hdocument
      exact location?_beside hne hnames houter hdocs hdocument href

/-- A catalog in the directory "c" of the working directory. -/
def exampleShelf : FileSystem where
  workingDirectory := .ofText "/"
  contents p :=
    if p = .ofText "c/c" then
      .ok (Text.encodeText "<catalog><uri name='n' uri='s'/></catalog>")
    else .error .notFound

def exampleShelfCatalog : Catalog := .ofEntries [.uri "n" "c/s"]

def exampleShelfSources : Sources := ⟨exampleShelf, .standard, false, some exampleShelfCatalog⟩

theorem exampleShelf_ofFile :
    Catalog.ofFile exampleShelf (.ofText "c/c") = some (.ok exampleShelfCatalog) := by
  have hitems : Catalog.itemsOfFile exampleShelf (.ofText "c/c") = .ok [.uri "n" "s"] := by cbv
  have hplace : Catalog.locate (FilePath.ofText "c/c").parent? "s" = "c/s" := by cbv
  have hloads : Catalog.LoadsFile exampleShelf (.ofText "c/c")
      (.ok (.ofEntries [.uri "n" (Catalog.locate (FilePath.ofText "c/c").parent? "s")])) :=
    .ok hitems (.uri .nil)
  rw [hplace] at hloads
  exact Catalog.ofFile_eq_some_iff.2 hloads

theorem exampleShelf_isPlain {c : Char} (hc : c ∈ ['c', 'd', 's']) : IsPlain [c] := by
  simp only [List.mem_cons, List.not_mem_nil, or_false] at hc
  rcases hc with rfl | rfl | rfl <;> exact isPlain_singleton (by decide) (by decide) (by decide)

/-- The import of a document in the directory "d" is looked for in a directory
"c" in there. -/
theorem the_import_is_looked_for_beside_the_document :
    exampleShelfSources.catalog = some exampleShelfCatalog ∧
      Catalog.ofFile exampleShelf (.ofText "c/c") = some (.ok exampleShelfCatalog) ∧
      exampleShelfCatalog.ofImport? (some "n") none = some "c/s" ∧
      exampleShelfSources.location? ((Location.path (.ofText "d/d")).base? exampleShelf)
        (some "n") none = some (.path (.ofText "/d/c/s")) := by
  have hmapped : exampleShelfCatalog.ofImport? (some "n") none = some "c/s" := by cbv
  refine ⟨rfl, exampleShelf_ofFile, hmapped, ?_⟩
  have hlaw := remapped_imports_are_looked_for_from_the_document (s := exampleShelfSources) rfl
    exampleShelf_ofFile hmapped
  have hplace : "c/s" = Catalog.locate (some (.ofNames false [['c']])) (namesText false [['s']]) :=
    by cbv
  have hplain := @exampleShelf_isPlain
  have hbeside := ((hlaw.2 (.ofNames false [['c']]) [['s']] (by simp) (by simp [hplain]) hplace).2
    [['c']] (by simp [hplain])).2 rfl (.ofText "d/d") [['d']] ['d'] (by simp [hplain]) (by cbv)
  have hpath : (FilePath.ofNames true [['d']]).join
      ((FilePath.ofNames false [['c']]).join (.ofText (namesText false [['s']])))
      = .ofText "/d/c/s" := by cbv
  rwa [hpath] at hbeside

/-- A catalog named from the working directory leads elsewhere than to what is
beside it. -/
theorem the_import_is_not_looked_for_beside_the_catalog :
    Catalog.ofFile exampleShelf (.ofText "c/c") = some (.ok exampleShelfCatalog) ∧
      ∃ found, exampleShelfSources.location? ((Location.path (.ofText "d/d")).base? exampleShelf)
          (some "n") none = some (.path found) ∧
        exampleShelf.absolute found
          ≠ exampleShelf.absolute ((FilePath.ofText "c").join (.ofText "s")) := by
  have href : exampleShelfSources.reference? (some "n") none
      = some (Catalog.locate (some (.ofNames false [['c']])) (namesText false [['s']])) := by cbv
  have hdocument : exampleShelf.absolute (.ofText "d/d") = .ofNames true ([['d']] ++ [['d']]) := by
    cbv
  have hplain := @exampleShelf_isPlain
  have hbeside := location?_beside (by simp) (by simp [hplain]) (by simp [hplain])
    (by simp [hplain]) hdocument href
  refine ⟨exampleShelf_ofFile, _, hbeside, ?_⟩
  decide +kernel

end Sources

end Wsdl
