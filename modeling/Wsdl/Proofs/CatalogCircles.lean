-- When loading a catalog comes to an end. Catalogs are followed wherever they
-- lead, so it does unless some catalog that is read leads back to itself.
import Mathlib
import Wsdl.Catalog.Files

namespace Wsdl.Catalog

open Relation (ReflTransGen TransGen)

variable {fs : FileSystem} {p q : FilePath}

/-! ## Loading, however long it takes -/

/-- The items of a catalog in some directory give the entries. Each catalog
that is named is read where it is named, whatever was read before. -/
inductive Loads (fs : FileSystem) : Option FilePath → List Item → List Entry → Prop
  | nil {directory} : Loads fs directory [] []
  | system {directory id uri rest es} (hrest : Loads fs directory rest es) :
      Loads fs directory (.system id uri :: rest) (.system id (locate directory uri) :: es)
  | uri {directory name uri rest es} (hrest : Loads fs directory rest es) :
      Loads fs directory (.uri name uri :: rest) (.uri name (locate directory uri) :: es)
  | unreadable {directory path rest e es}
      (hitems : itemsOfFile fs (nextPath directory path) = .error e)
      (hrest : Loads fs directory rest es) : Loads fs directory (.next path :: rest) es
  | next {directory path rest items inner es}
      (hitems : itemsOfFile fs (nextPath directory path) = .ok items)
      (hinner : Loads fs (nextPath directory path).parent? items inner)
      (hrest : Loads fs directory rest es) :
      Loads fs directory (.next path :: rest) (inner ++ es)

/-- Loading the catalog of the file at a path ends with a catalog or an error. -/
inductive LoadsFile (fs : FileSystem) (p : FilePath) : Except Error Catalog → Prop
  | error {e} (hitems : itemsOfFile fs p = .error e) : LoadsFile fs p (.error e)
  | ok {items es} (hitems : itemsOfFile fs p = .ok items) (hloads : Loads fs p.parent? items es) :
      LoadsFile fs p (.ok (ofEntries es))

theorem Loads.unique {directory : Option FilePath} {items : List Item} {es es' : List Entry}
    (h : Loads fs directory items es) (h' : Loads fs directory items es') : es = es' := by
  induction h generalizing es' with
  | nil =>
    cases h'
    rfl
  | system _ ih =>
    cases h' with
    | system hrest => rw [ih hrest]
  | uri _ ih =>
    cases h' with
    | uri hrest => rw [ih hrest]
  | unreadable hitems _ ih =>
    cases h' with
    | unreadable _ hrest => exact ih hrest
    | next hitems' _ _ => cases hitems.symm.trans hitems'
  | next hitems _ _ ihInner ihRest =>
    cases h' with
    | unreadable hitems' _ => cases hitems.symm.trans hitems'
    | next hitems' hinner hrest =>
      obtain rfl := Except.ok.inj (hitems.symm.trans hitems')
      rw [ihInner hinner, ihRest hrest]

/-! ## Which catalogs lead to which -/

/-- The catalog of the file at `p` names the one at `q`. -/
def Names (fs : FileSystem) (p q : FilePath) : Prop :=
  ∃ items, itemsOfFile fs p = .ok items ∧ ∃ path, .next path ∈ items ∧ nextPath p.parent? path = q

/-- Some catalog that `p` leads to leads back to itself. -/
def LeadsToCircle (fs : FileSystem) (p : FilePath) : Prop :=
  ∃ c, ReflTransGen (Names fs) p c ∧ TransGen (Names fs) c c

theorem LeadsToCircle.of_names (hpq : Names fs p q) : LeadsToCircle fs q → LeadsToCircle fs p := by
  rintro ⟨c, hqc, hc⟩
  exact ⟨c, .head hpq hqc, hc⟩

/-- The way to a circle begins with a catalog that is named, also from a
catalog on the circle. -/
theorem LeadsToCircle.exists_names (h : LeadsToCircle fs p) :
    ∃ q, Names fs p q ∧ LeadsToCircle fs q := by
  obtain ⟨c, hpc, hc⟩ := h
  obtain ⟨q, hpq, hqc⟩ := TransGen.head'_iff.1 (hc.trans_right hpc)
  exact ⟨q, hpq, c, hqc, hc⟩

/-! ## What is loaded leads to no circle -/

theorem Loads.not_leadsToCircle {directory : Option FilePath} {items : List Item} {es : List Entry}
    (h : Loads fs directory items es) :
    ∀ path, .next path ∈ items → ¬ LeadsToCircle fs (nextPath directory path) := by
  induction h with
  | nil =>
    intro path hpath
    cases hpath
  | system _ ih =>
    intro path hpath
    exact ih path (by simpa using hpath)
  | uri _ ih =>
    intro path hpath
    exact ih path (by simpa using hpath)
  | unreadable hitems _ ih =>
    intro path hpath
    rcases List.mem_cons.1 hpath with heq | hpath
    · obtain rfl := Item.next.inj heq
      intro hcircle
      obtain ⟨_, ⟨items, hitems', _⟩, _⟩ := hcircle.exists_names
      cases hitems.symm.trans hitems'
    · exact ih path hpath
  | next hitems _ _ ihInner ihRest =>
    intro path hpath
    rcases List.mem_cons.1 hpath with heq | hpath
    · obtain rfl := Item.next.inj heq
      intro hcircle
      obtain ⟨_, ⟨items, hitems', further, hfurther, rfl⟩, hq⟩ := hcircle.exists_names
      obtain rfl := Except.ok.inj (hitems.symm.trans hitems')
      exact ihInner further hfurther hq
    · exact ihRest path hpath

theorem LoadsFile.not_leadsToCircle {found : Except Error Catalog} (h : LoadsFile fs p found) :
    ¬ LeadsToCircle fs p := by
  intro hcircle
  obtain ⟨_, ⟨items, hitems, path, hpath, rfl⟩, hq⟩ := hcircle.exists_names
  cases h with
  | error hitems' => cases hitems.symm.trans hitems'
  | ok hitems' hloads =>
    obtain rfl := Except.ok.inj (hitems.symm.trans hitems')
    exact hloads.not_leadsToCircle path hpath hq

/-! ## What the trail gives -/

/-- Entries that are given are those that are loaded. -/
theorem loads_of_entries {t : Trail} {directory : Option FilePath} {items : List Item}
    {es : List Entry} (h : entries fs t directory items = some es) :
    Loads fs directory items es := by
  fun_induction entries fs t directory items generalizing es with
  | case1 t directory =>
    obtain rfl := Option.some.inj h
    exact .nil
  | case2 t directory id uri rest ih =>
    obtain ⟨later, hrest, hes⟩ := Option.bind_eq_some_iff.1 h
    obtain rfl := Option.some.inj hes
    exact .system (ih hrest)
  | case3 t directory name uri rest ih =>
    obtain ⟨later, hrest, hes⟩ := Option.bind_eq_some_iff.1 h
    obtain rfl := Option.some.inj hes
    exact .uri (ih hrest)
  | case4 t directory path rest ihInner ihRest =>
    obtain ⟨inner, hinner, h⟩ := Option.bind_eq_some_iff.1 h
    obtain ⟨later, hrest, hes⟩ := Option.bind_eq_some_iff.1 h
    obtain rfl := Option.some.inj hes
    split at hinner
    · cases hinner
    · next hmem =>
      split at hinner
      · next items hitems => exact .next hitems (ihInner hmem items hitems hinner) (ihRest hrest)
      · next e hitems =>
        obtain rfl := Option.some.inj hinner
        exact .unreadable hitems (ihRest hrest)

theorem exists_bind {α β : Type} {x : Option α} {f : α → Option β} (hx : ∃ a, x = some a)
    (hf : ∀ a, ∃ b, f a = some b) : ∃ b, x >>= f = some b := by
  obtain ⟨a, rfl⟩ := hx
  exact hf a

/-- Where there is no circle, entries are given. The search keeps to this: each
path on the way leads to the catalog whose items it is at. -/
theorem exists_entries {t : Trail} {directory : Option FilePath} {items : List Item} :
    ∀ p all, p.parent? = directory → itemsOfFile fs p = .ok all → items ⊆ all →
      (∀ q ∈ t.paths, ReflTransGen (Names fs) q p) → ¬ LeadsToCircle fs p →
        ∃ es, entries fs t directory items = some es := by
  fun_induction entries fs t directory items with
  | case1 t directory =>
    intros
    exact ⟨[], rfl⟩
  | case2 t directory id uri rest ih =>
    intro p all hp hall hsub htrail hcircle
    have hrest := ih p all hp hall (List.subset_of_cons_subset hsub) htrail hcircle
    exact exists_bind hrest fun later => ⟨_, rfl⟩
  | case3 t directory name uri rest ih =>
    intro p all hp hall hsub htrail hcircle
    have hrest := ih p all hp hall (List.subset_of_cons_subset hsub) htrail hcircle
    exact exists_bind hrest fun later => ⟨_, rfl⟩
  | case4 t directory path rest ihInner ihRest =>
    rintro p all rfl hall hsub htrail hcircle
    have hrest := ihRest p all rfl hall (List.subset_of_cons_subset hsub) htrail hcircle
    have hnames : Names fs p (nextPath p.parent? path) :=
      ⟨all, hall, path, hsub List.mem_cons_self, rfl⟩
    have hmem : nextPath p.parent? path ∉ t.paths := by
      intro hmem
      -- the way went from the named catalog to this one, which closes the circle
      exact hcircle ⟨_, .single hnames, .tail' (htrail _ hmem) hnames⟩
    refine exists_bind ?_ fun inner => exists_bind hrest fun later => ⟨_, rfl⟩
    rw [dif_neg hmem]
    split
    · next items hitems =>
      refine ihInner hmem items hitems _ items rfl hitems (List.Subset.refl _) ?_ ?_
      · intro q hq
        rcases List.mem_cons.1 hq with rfl | hq
        · exact .refl
        · exact (htrail q hq).tail hnames
      · intro hcircle'
        exact hcircle (.of_names hnames hcircle')
    · exact ⟨[], rfl⟩

/-- What is found is what is loaded. -/
theorem loadsFile_of_ofFile {found : Except Error Catalog} (h : ofFile fs p = some found) :
    LoadsFile fs p found := by
  unfold ofFile at h
  split at h
  · next items hitems =>
    obtain ⟨es, hes, hfound⟩ := Option.map_eq_some_iff.1 h
    subst hfound
    exact .ok hitems (loads_of_entries hes)
  · next e hitems =>
    obtain rfl := Option.some.inj h
    exact .error hitems

theorem exists_ofFile (hcircle : ¬ LeadsToCircle fs p) : ∃ found, ofFile fs p = some found := by
  unfold ofFile
  split
  · next items hitems =>
    have htrail : ∀ q ∈ [p], ReflTransGen (Names fs) q p := by
      intro q hq
      obtain rfl := List.mem_singleton.1 hq
      exact .refl
    obtain ⟨es, hes⟩ := exists_entries (t := Trail.empty.push p
      ⟨List.not_mem_nil, short_of_itemsOfFile hitems⟩) p items rfl hitems (List.Subset.refl _)
      htrail hcircle
    exact ⟨_, by rw [hes]; rfl⟩
  · exact ⟨_, rfl⟩

theorem LoadsFile.unique {found found' : Except Error Catalog} (h : LoadsFile fs p found)
    (h' : LoadsFile fs p found') : found = found' := by
  cases h with
  | error hitems =>
    cases h' with
    | error hitems' =>
      obtain rfl := Except.error.inj (hitems.symm.trans hitems')
      rfl
    | ok hitems' _ => cases hitems.symm.trans hitems'
  | ok hitems hloads =>
    cases h' with
    | error hitems' => cases hitems.symm.trans hitems'
    | ok hitems' hloads' =>
      obtain rfl := Except.ok.inj (hitems.symm.trans hitems')
      rw [hloads.unique hloads']

/-! ## The law -/

/-- Nothing is found only where loading does not end. -/
theorem ofFile_eq_some_iff {found : Except Error Catalog} :
    ofFile fs p = some found ↔ LoadsFile fs p found := by
  constructor
  · exact loadsFile_of_ofFile
  · intro h
    obtain ⟨found', hfound⟩ := exists_ofFile h.not_leadsToCircle
    rw [hfound, h.unique (loadsFile_of_ofFile hfound)]

/-- Loading the catalog of a file comes to an end, with a catalog or an error,
if and only if no catalog that it leads to leads back to itself. What it ends
with is then found, and nothing is found otherwise. -/
theorem loading_ends_iff_no_catalog_leads_back (fs : FileSystem) (p : FilePath) :
    ((∃ found, LoadsFile fs p found) ↔
        ∀ c, ReflTransGen (Names fs) p c → ¬ TransGen (Names fs) c c) ∧
      ∀ found, ofFile fs p = some found ↔ LoadsFile fs p found := by
  refine ⟨⟨?_, ?_⟩, fun found => ofFile_eq_some_iff⟩
  · rintro ⟨found, h⟩ c hpc hc
    exact h.not_leadsToCircle ⟨c, hpc, hc⟩
  · intro hnone
    have hcircle : ¬ LeadsToCircle fs p := fun ⟨c, hpc, hc⟩ => hnone c hpc hc
    obtain ⟨found, hfound⟩ := exists_ofFile hcircle
    exact ⟨found, loadsFile_of_ofFile hfound⟩

/-- One file: a catalog that names itself. -/
def exampleOuroboros : FileSystem where
  workingDirectory := .ofText "/"
  contents p :=
    if p = .ofText "a" then .ok (Text.encodeText "<catalog><nextCatalog catalog='a'/></catalog>")
    else .error .notFound

/-- Loading does not always end. -/
theorem the_catalog_that_names_itself_is_never_loaded :
    ¬ ∃ found, LoadsFile exampleOuroboros (.ofText "a") found := by
  have hitems : itemsOfFile exampleOuroboros (.ofText "a") = .ok [.next "a"] := by cbv
  have hnext : nextPath (FilePath.ofText "a").parent? "a" = .ofText "a" := by cbv
  have hnames : Names exampleOuroboros (.ofText "a") (.ofText "a") :=
    ⟨_, hitems, "a", List.mem_cons_self, hnext⟩
  rintro ⟨found, h⟩
  exact h.not_leadsToCircle ⟨_, .refl, .single hnames⟩

end Wsdl.Catalog
