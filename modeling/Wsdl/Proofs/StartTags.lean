-- What a start tag says. Its attributes have keys that differ, and those that
-- declare namespaces are in force before any name of the tag is resolved. So
-- the opening of an element is told by what the tag declares and names, and by
-- the bindings around it.
import Mathlib.Data.List.Forall2
import Mathlib.Data.List.Nodup
import Wsdl.Xml.Document

namespace Wsdl

/-! ## Names with and without a prefix -/

/-- What a written name stands for, blanks around it dropped: with a colon,
the text before the first one is a prefix, and its namespace is that of the
name; else the name is in the default namespace. -/
inductive Scope.Means (s : Scope) (written : String) : QName → Prop
  | prefixed (p l ns : String) : (Text.trim written).toList = p.toList ++ ':' :: l.toList →
      ':' ∉ p.toList → s.find? p = some ns → Means s written ⟨some ns, l⟩
  | plain : ':' ∉ (Text.trim written).toList → Means s written ⟨s.default, Text.trim written⟩

theorem Scope.means_of_resolve {s : Scope} {written : String} {q : QName}
    (h : s.resolve written = .ok q) : s.Means written q := by
  unfold resolve splitPrefix at h
  cases hcut : Text.cutAt ':' (Text.trim written).toList with
  | none =>
    simp only [hcut] at h
    obtain rfl := Except.ok.inj h
    exact .plain (Text.cutAt_eq_none_iff.1 hcut)
  | some cut =>
    obtain ⟨p, l⟩ := cut
    obtain ⟨hsplit, hcolon⟩ := Text.cutAt_eq_some hcut
    simp only [hcut] at h
    split at h
    · next ns hns =>
      obtain rfl := Except.ok.inj h
      exact .prefixed (String.ofList p) (String.ofList l) ns (by simpa using hsplit)
        (by simpa using hcolon) hns
    · cases h

namespace Xml

/-! ## Keys -/

namespace Attribute

variable {cs rest rest' : List Char} {before : List (List Char × Nat)} {offset s next : Nat}
  {a : RawAttribute}

theorem lookup_of_findValue {start : Nat} {key : List Char} {h : rest.length < cs.length}
    {h' : rest'.length < cs.length}
    (hfind : findValue cs before start key offset rest h = .one s a next rest' h') :
    before.lookup a.key = none := by
  unfold findValue at hfind
  split at hfind
  · cases hfind
  · next hnew =>
    dsimp only at hfind
    split at hfind
    · cases hfind
    · split at hfind
      · split at hfind
        · cases hfind
        · cases hfind
          exact hnew
      · cases hfind

theorem lookup_of_findNext {h : rest.length < cs.length}
    (hfind : findNext before offset cs = .one s a next rest h) : before.lookup a.key = none := by
  unfold findNext at hfind
  dsimp only at hfind
  split at hfind
  · cases hfind
  · split at hfind
    · exact lookup_of_findValue hfind
    · cases hfind

/-- No key is given twice, nor one that was given before. -/
theorem nodup_keys (before : List (List Char × Nat)) (offset : Nat) (cs : List Char) :
    ((scanFrom before offset cs).attributes.map (·.key)).Nodup ∧
      ∀ a ∈ (scanFrom before offset cs).attributes, before.lookup a.key = none := by
  fun_induction scanFrom before offset cs with
  | case1 before offset cs hfind => simp
  | case2 before offset cs f hfind => simp [Scan.stop]
  | case3 before offset cs start a next rest h hfind ih =>
    obtain ⟨hnodup, hnew⟩ := ih
    simp only [Scan.push, List.map_cons, List.nodup_cons, List.forall_mem_cons]
    refine ⟨⟨?_, hnodup⟩, lookup_of_findNext hfind, fun b hb => ?_⟩
    · intro hmem
      obtain ⟨b, hb, hkey⟩ := List.mem_map.1 hmem
      have := hnew b hb
      simp [hkey] at this
    · have := hnew b hb
      rw [List.lookup_cons] at this
      split at this
      · cases this
      · exact this

end Attribute

/-! ## What a tag declares -/

/-- The key and the value of an attribute, if the references in the value
resolve. -/
def RawAttribute.entry? (a : RawAttribute) : Option (List Char × String) :=
  (Entity.unescape a.value).toOption.map fun v => (a.key, String.ofList v)

namespace Tag

/-- The key with which a prefix is declared, or the default namespace. -/
def declarationKey : Option String → List Char
  | none => ['x', 'm', 'l', 'n', 's']
  | some p => 'x' :: 'm' :: 'l' :: 'n' :: 's' :: ':' :: p.toList

/-- Whether a key declares a namespace. -/
def declares (key : List Char) : Bool :=
  key == declarationKey none || (Opening.declaredPrefix? key).isSome

variable (tag : Tag)

/-- The attributes as they are written. -/
def written : List RawAttribute := (Attribute.scan tag.name tag.afterName).attributes

/-- How many namespaces are declared. -/
def declarationCount : Nat := tag.written.countP (declares ·.key)

def entries : List (List Char × String) := tag.written.filterMap RawAttribute.entry?

/-- The value that is declared for a prefix, or for the default namespace. -/
def declared? (p : Option String) : Option String := tag.entries.lookup (declarationKey p)

/-- The attributes that declare nothing, by their keys. -/
def others : List (String × String) :=
  (tag.entries.filter (! declares ·.1)).map fun x => (String.ofList x.1, x.2)

end Tag

namespace Opening

open Tag

theorem declaredPrefix?_eq_some_iff {key : List Char} {p : String} :
    declaredPrefix? key = some p ↔ key = declarationKey (some p) := by
  unfold declaredPrefix? declarationKey
  split
  · simp [← String.toList_inj]
  · next h => simpa using h p.toList

namespace Sorted

variable {s : Sorted} {key : List Char} {value p : String} {xs : List (List Char × String)}

theorem declared_add : (s.add key value).declared = s.declared + if declares key then 1 else 0 := by
  unfold add declares
  split
  · next h => simp [h, declarationKey]
  · next h => split <;> simp_all [declarationKey]

theorem others_add : (s.add key value).others
    = s.others ++ if declares key then [] else [(String.ofList key, value)] := by
  unfold add declares
  split
  · next h => simp [h, declarationKey]
  · next h => split <;> simp_all [declarationKey]

theorem find?_prefixes_add : (s.add key value).scope.prefixes.find? p
    = if key = declarationKey (some p) then some value else s.scope.prefixes.find? p := by
  unfold add
  split
  · next h => simp [h, declarationKey, Scope.setDefault]
  · split
    · next q hq =>
      rw [declaredPrefix?_eq_some_iff] at hq
      subst hq
      simp [Scope.bind, Dictionary.find?_insert, declarationKey, String.toList_inj, eq_comm]
    · next hnone =>
      have hkey : key ≠ declarationKey (some p) := fun h => by
        rw [declaredPrefix?_eq_some_iff.2 h] at hnone
        cases hnone
      simp [hkey]

theorem default_add : (s.add key value).scope.default
    = if key = declarationKey none then (if value.isEmpty then none else some value)
      else s.scope.default := by
  unfold add
  split
  · next h => simp [h, declarationKey, Scope.default_setDefault]
  · next h => split <;> simp [h, declarationKey]

/-- The attributes taken in one by one. -/
def addAll (s : Sorted) (xs : List (List Char × String)) : Sorted :=
  xs.foldl (fun s x => s.add x.1 x.2) s

theorem declared_addAll : (s.addAll xs).declared = s.declared + xs.countP (declares ·.1) := by
  induction xs generalizing s with
  | nil => rfl
  | cons x xs ih =>
    rw [addAll, List.foldl_cons, ← addAll, ih, declared_add, List.countP_cons]
    omega

theorem others_addAll : (s.addAll xs).others
    = s.others ++ (xs.filter (! declares ·.1)).map fun x => (String.ofList x.1, x.2) := by
  induction xs generalizing s with
  | nil => simp [addAll]
  | cons x xs ih =>
    rw [addAll, List.foldl_cons, ← addAll, ih, others_add, List.filter_cons]
    by_cases hx : declares x.1 = true
    · simp [hx]
    · simp [hx]

theorem lookup_eq_none_of_not_mem {k : List Char} (h : k ∉ xs.map (·.1)) : xs.lookup k = none := by
  rw [List.lookup_eq_none_iff]
  rintro x hx
  have : k ≠ x.1 := fun hk => h (hk ▸ List.mem_map_of_mem hx)
  simpa using this

/-- With keys that differ, each prefix has the value that is declared for it. -/
theorem find?_prefixes_addAll (hkeys : (xs.map (·.1)).Nodup) :
    (s.addAll xs).scope.prefixes.find? p
      = (xs.lookup (declarationKey (some p))).or (s.scope.prefixes.find? p) := by
  induction xs generalizing s with
  | nil => rfl
  | cons x xs ih =>
    rw [List.map_cons, List.nodup_cons] at hkeys
    rw [addAll, List.foldl_cons, ← addAll, ih hkeys.2, find?_prefixes_add,
      Dictionary.lookup_entry_cons]
    by_cases hx : x.1 = declarationKey (some p)
    · simp [hx, lookup_eq_none_of_not_mem (hx ▸ hkeys.1)]
    · simp [hx, Ne.symm hx]

theorem find?_addAll (hp : p ≠ "xml") (hkeys : (xs.map (·.1)).Nodup) :
    (s.addAll xs).scope.find? p
      = (xs.lookup (declarationKey (some p))).or (s.scope.find? p) := by
  rw [Scope.find?, if_neg hp, find?_prefixes_addAll hkeys, Scope.find?, if_neg hp]

theorem default_addAll (hkeys : (xs.map (·.1)).Nodup) :
    (s.addAll xs).scope.default = match xs.lookup (declarationKey none) with
      | some value => if value.isEmpty then none else some value
      | none => s.scope.default := by
  induction xs generalizing s with
  | nil => rfl
  | cons x xs ih =>
    rw [List.map_cons, List.nodup_cons] at hkeys
    rw [addAll, List.foldl_cons, ← addAll, ih hkeys.2, default_add,
      Dictionary.lookup_entry_cons]
    by_cases hx : x.1 = declarationKey none
    · simp [hx, lookup_eq_none_of_not_mem (hx ▸ hkeys.1)]
    · simp [hx, Ne.symm hx]

end Sorted

/-- Attributes can be taken in if all their values can be read. -/
theorem sort_eq_ok_iff {s s' : Sorted} {as : List RawAttribute} :
    sort s as = .ok s' ↔ (∀ a ∈ as, a.entry?.isSome = true) ∧
      s' = s.addAll (as.filterMap RawAttribute.entry?) := by
  induction as generalizing s with
  | nil =>
    rw [sort, Except.ok.injEq, @eq_comm _ s]
    simp [Sorted.addAll]
  | cons a as ih =>
    unfold sort
    rw [bind_eq_ok_iff, List.forall_mem_cons]
    cases hvalue : Entity.unescape a.value with
    | ok value =>
      have hentry : a.entry? = some (a.key, String.ofList value) := by
        rw [RawAttribute.entry?, hvalue]
        rfl
      simp [Except.mapError, ih, hentry, Sorted.addAll]
    | error fault =>
      have hentry : a.entry? = none := by
        rw [RawAttribute.entry?, hvalue]
        rfl
      simp [Except.mapError, hentry]

theorem map_key_entries {as : List RawAttribute} (h : ∀ a ∈ as, a.entry?.isSome = true) :
    (as.filterMap RawAttribute.entry?).map (·.1) = as.map (·.key) := by
  induction as with
  | nil => rfl
  | cons a as ih =>
    rw [List.forall_mem_cons] at h
    obtain ⟨x, hx⟩ := Option.isSome_iff_exists.1 h.1
    obtain ⟨value, _, rfl⟩ := Option.map_eq_some_iff.1 hx
    rw [List.filterMap_cons_some hx, List.map_cons, List.map_cons, ih h.2]

theorem countP_entries {as : List RawAttribute} (h : ∀ a ∈ as, a.entry?.isSome = true) :
    (as.filterMap RawAttribute.entry?).countP (declares ·.1) = as.countP (declares ·.key) := by
  have hmap := congrArg (List.countP declares) (map_key_entries h)
  rwa [List.countP_map, List.countP_map] at hmap

theorem sortScan_eq_ok_iff {outer : Scope} {tag : Tag} {sorted : Sorted} :
    sortScan outer (Attribute.scan tag.name tag.afterName) = .ok sorted ↔
      (Attribute.scan tag.name tag.afterName).fault = none ∧
        (∀ a ∈ tag.written, a.entry?.isSome = true) ∧
        sorted = (⟨outer, 0, []⟩ : Sorted).addAll tag.entries := by
  unfold sortScan
  rw [bind_eq_ok_iff]
  constructor
  · rintro ⟨s, hs, h⟩
    split at h
    · cases h
    · next hfault =>
      obtain rfl := Except.ok.inj h
      exact ⟨hfault, sort_eq_ok_iff.1 hs⟩
  · rintro ⟨hfault, h⟩
    exact ⟨sorted, sort_eq_ok_iff.2 h, by simp [hfault, pure, Except.pure]⟩

/-- Attributes whose names are resolved, the later one in the place of an
earlier one of the same name. -/
def putAll (done : List (QName × String)) (named : List (QName × String)) :
    List (QName × String) :=
  named.foldl (fun as a => put a.1 a.2 as) done

theorem length_put_le (name : QName) (value : String) (as : List (QName × String)) :
    (put name value as).length ≤ as.length + 1 := by
  fun_induction put name value as with
  | case1 => simp
  | case2 a as h => simp
  | case3 a as h ih => simpa using ih

theorem length_putAll_le (done named : List (QName × String)) :
    (putAll done named).length ≤ done.length + named.length := by
  induction named generalizing done with
  | nil => exact Nat.le_refl _
  | cons a as ih =>
    have hput := length_put_le a.1 a.2 done
    have hrest := ih (put a.1 a.2 done)
    rw [putAll, List.foldl_cons, ← putAll, List.length_cons]
    omega

/-- What the name of an attribute stands for: without a colon it is the name
as written, in no namespace. -/
def NamesAttribute (s : Scope) (written : String) (q : QName) : Prop :=
  if ':' ∈ written.toList then s.Means written q else q = ⟨none, written⟩

/-- The attributes are those that are written, with their names resolved. -/
def NamesAttributes (s : Scope) (written : List (String × String))
    (attributes : List (QName × String)) : Prop :=
  ∃ named, List.Forall₂ (fun x a => NamesAttribute s x.1 a.1 ∧ a.2 = x.2) written named ∧
    attributes = putAll [] named

theorem namesAttribute_of_resolveAttribute {s : Scope} {written : String} {q : QName}
    (h : s.resolveAttribute written = .ok q) : NamesAttribute s written q := by
  unfold Scope.resolveAttribute at h
  unfold NamesAttribute
  by_cases hcolon : ':' ∈ written.toList
  · simp only [List.contains_iff_mem, hcolon, if_true] at h ⊢
    exact Scope.means_of_resolve h
  · simp only [List.contains_iff_mem, hcolon, if_false] at h ⊢
    exact (Except.ok.inj h).symm

/-- An attribute with its name resolved, if that can be. -/
def resolved? (s : Scope) (x : String × String) : Option (QName × String) :=
  (s.resolveAttribute x.1).toOption.map (·, x.2)

theorem resolved?_eq_some_iff {s : Scope} {x : String × String} {a : QName × String} :
    resolved? s x = some a ↔ s.resolveAttribute x.1 = .ok a.1 ∧ a.2 = x.2 := by
  unfold resolved?
  cases s.resolveAttribute x.1 with
  | ok q => simp [Except.toOption, Prod.ext_iff, eq_comm]
  | error fault => simp [Except.toOption]

theorem forall₂_filterMap {α β : Type} {f : α → Option β} {l : List α}
    (h : ∀ x ∈ l, (f x).isSome = true) :
    List.Forall₂ (fun x y => f x = some y) l (l.filterMap f) := by
  induction l with
  | nil => exact .nil
  | cons x l ih =>
    rw [List.forall_mem_cons] at h
    obtain ⟨y, hy⟩ := Option.isSome_iff_exists.1 h.1
    rw [List.filterMap_cons_some hy]
    exact .cons hy (ih h.2)

/-- Names can be resolved if each of them can. -/
theorem resolveAll_eq_ok_iff {s : Scope} {done as : List (QName × String)}
    {others : List (String × String)} :
    resolveAll s done others = .ok as ↔ (∀ x ∈ others, (resolved? s x).isSome = true) ∧
      as = putAll done (others.filterMap (resolved? s)) := by
  induction others generalizing done with
  | nil =>
    rw [resolveAll, Except.ok.injEq, @eq_comm _ done]
    simp [putAll]
  | cons x xs ih =>
    unfold resolveAll
    rw [bind_eq_ok_iff, List.forall_mem_cons]
    cases hname : s.resolveAttribute x.1 with
    | ok q =>
      have hx : resolved? s x = some (q, x.2) := resolved?_eq_some_iff.2 ⟨hname, rfl⟩
      simp [ih, hx, putAll]
    | error fault =>
      have hx : resolved? s x = none := by simp [resolved?, hname, Except.toOption]
      simp [hx]

theorem resolveAll_eq_ok {s : Scope} {done as : List (QName × String)}
    {others : List (String × String)} (h : resolveAll s done others = .ok as) :
    ∃ named, List.Forall₂ (fun x a => NamesAttribute s x.1 a.1 ∧ a.2 = x.2) others named ∧
      as = putAll done named := by
  obtain ⟨hall, rfl⟩ := resolveAll_eq_ok_iff.1 h
  refine ⟨_, (forall₂_filterMap hall).imp fun x a hx => ?_, rfl⟩
  obtain ⟨hname, hvalue⟩ := resolved?_eq_some_iff.1 hx
  exact ⟨namesAttribute_of_resolveAttribute hname, hvalue⟩

theorem ofTag_eq_ok_iff {limits : Limits} {outer : Scope} {tag : Tag} {o : Opening} :
    ofTag limits outer tag = .ok o ↔
      ∃ sorted, sortScan outer (Attribute.scan tag.name tag.afterName) = .ok sorted ∧
        sorted.declared ≤ limits.namespaces ∧ sorted.others.length ≤ limits.attributes ∧
        sorted.scope.resolveElement (String.ofList tag.name) = .ok o.name ∧
        resolveAll sorted.scope [] sorted.others = .ok o.attributes ∧ sorted.scope = o.scope := by
  unfold ofTag
  simp only [bind_eq_ok_iff, mapError_eq_ok_iff]
  constructor
  · rintro ⟨sorted, hs, _, hn, _, ha, name, hname, as, has, ho⟩
    obtain rfl := Except.ok.inj ho
    exact ⟨sorted, hs, Limits.check_eq_ok_iff.1 hn, Limits.check_eq_ok_iff.1 ha, hname, has, rfl⟩
  · rintro ⟨sorted, hs, hn, ha, hname, has, hscope⟩
    refine ⟨sorted, hs, (), Limits.check_eq_ok_iff.2 hn, (), Limits.check_eq_ok_iff.2 ha,
      o.name, hname, o.attributes, has, ?_⟩
    rw [hscope]
    rfl

/-- An opening has the scope that the declarations of its tag make of the one
around it, and in that scope the names of the tag are resolved. -/
structure IsOf (outer : Scope) (tag : Tag) (o : Opening) : Prop where
  prefixes : ∀ p, p ≠ "xml" → o.scope.find? p = (tag.declared? (some p)).or (outer.find? p)
  default : o.scope.default = match tag.declared? none with
    | some value => if value.isEmpty then none else some value
    | none => outer.default
  name : o.scope.Means (String.ofList tag.name) o.name
  attributes : NamesAttributes o.scope tag.others o.attributes

section

variable {limits : Limits} {outer : Scope} {tag : Tag} {o : Opening}

theorem isOf_of_ofTag (h : ofTag limits outer tag = .ok o) : o.IsOf outer tag := by
  obtain ⟨sorted, hsort, _, _, hname, has, hscope⟩ := ofTag_eq_ok_iff.1 h
  obtain ⟨_, hentries, rfl⟩ := sortScan_eq_ok_iff.1 hsort
  have hnodup : (tag.entries.map (·.1)).Nodup := by
    rw [Tag.entries, map_key_entries hentries]
    exact (Attribute.nodup_keys _ _ _).1
  refine ⟨fun p hp => ?_, ?_, ?_, ?_⟩
  · rw [← hscope, Sorted.find?_addAll hp hnodup]
    rfl
  · rw [← hscope, Sorted.default_addAll hnodup]
    rfl
  · exact Scope.means_of_resolve (hscope ▸ hname)
  · obtain ⟨named, hnamed, has⟩ := resolveAll_eq_ok has
    rw [Sorted.others_addAll, hscope, List.nil_append] at hnamed
    exact ⟨named, hnamed, has⟩

/-- A tag keeps within the limits that are checked for it. -/
theorem counts_of_ofTag (h : ofTag limits outer tag = .ok o) :
    tag.declarationCount ≤ limits.namespaces ∧ o.attributes.length ≤ limits.attributes := by
  obtain ⟨sorted, hsort, hdeclared, hothers, _, has, _⟩ := ofTag_eq_ok_iff.1 h
  obtain ⟨_, hentries, rfl⟩ := sortScan_eq_ok_iff.1 hsort
  constructor
  · rwa [Sorted.declared_addAll, Nat.zero_add, Tag.entries, countP_entries hentries] at hdeclared
  · obtain ⟨named, hnamed, has⟩ := resolveAll_eq_ok has
    have hlength := length_putAll_le [] named
    rw [has]
    rw [hnamed.length_eq] at hothers
    simp only [List.length_nil] at hlength
    omega

theorem ofTag_mono {wider : Limits} (hle : ∀ a, limits.of a ≤ wider.of a)
    (h : ofTag limits outer tag = .ok o) : ofTag wider outer tag = .ok o := by
  obtain ⟨sorted, hsort, hdeclared, hothers, h⟩ := ofTag_eq_ok_iff.1 h
  exact ofTag_eq_ok_iff.2 ⟨sorted, hsort, Nat.le_trans hdeclared (hle .namespaces),
    Nat.le_trans hothers (hle .attributes), h⟩

end

end Opening

end Xml

end Wsdl
