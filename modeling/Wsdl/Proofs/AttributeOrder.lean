-- The order of the attributes in a start tag. Declarations are taken in before any
-- name is resolved, so it does not matter whether they stand before or behind the
-- names that need them. In whatever order the attributes are given, the tag can be
-- read or it cannot, and it says the same.
import Mathlib.Data.List.TakeWhile
import Wsdl.Proofs.StartTags

namespace Wsdl.Xml

/-! ## Writing attributes -/

/-- The tag gives these attributes, in this order, and all of it can be made out. -/
def Tag.Lists (tag : Tag) (as : List RawAttribute) : Prop :=
  Attribute.scan tag.name tag.afterName = ⟨as, none⟩

namespace RawAttribute

/-- An attribute that can be written: there is a key, which goes up to an equals sign,
and a quote that is not in the value. -/
structure IsProper (a : RawAttribute) : Prop where
  key : ∃ c cs, a.key = c :: cs ∧ Text.isXmlSpace c = false ∧ ∀ d ∈ cs, Attribute.endsKey d = false
  value : ∃ q, (q = '"' ∨ q = '\'') ∧ q ∉ a.value

/-- A quote that is not in the value, if there is one. -/
def quote (a : RawAttribute) : Char := if '"' ∈ a.value then '\'' else '"'

/-- The attribute behind a space, with its value in quotes. -/
def text (a : RawAttribute) : List Char :=
  ' ' :: (a.key ++ '=' :: a.quote :: (a.value ++ [a.quote]))

theorem quote_not_mem {a : RawAttribute} (ha : a.IsProper) : a.quote ∉ a.value := by
  obtain ⟨q, hq, hmem⟩ := ha.value
  unfold quote
  split
  · next hdouble =>
    rcases hq with rfl | rfl
    · exact absurd hdouble hmem
    · exact hmem
  · next hdouble => exact hdouble

theorem quote_eq (a : RawAttribute) : a.quote = '"' ∨ a.quote = '\'' := by
  unfold quote
  split
  · exact .inr rfl
  · exact .inl rfl

end RawAttribute

namespace Attribute

variable {a : RawAttribute} {as : List RawAttribute} {cs rest : List Char}
  {before : List (List Char × Nat)} {offset : Nat}

theorem skipSpace_of_not_isXmlSpace {c : Char} (h : Text.isXmlSpace c = false) :
    skipSpace offset (c :: cs) = (offset, c :: cs) := by
  simp [skipSpace, h]

theorem takeWhile_append_cons {p : Char → Bool} {c : Char} (rest : List Char)
    (hcs : ∀ d ∈ cs, p d = true) (hc : p c = false) : (cs ++ c :: rest).takeWhile p = cs := by
  rw [List.takeWhile_append_of_pos hcs, List.takeWhile_cons, hc]
  simp

theorem dropWhile_append_cons {p : Char → Bool} {c : Char} (rest : List Char)
    (hcs : ∀ d ∈ cs, p d = true) (hc : p c = false) :
    (cs ++ c :: rest).dropWhile p = c :: rest := by
  rw [List.dropWhile_append_of_pos hcs, List.dropWhile_cons, hc]
  simp

/-- A value in quotes is found behind an equals sign. -/
theorem findValue_text {start : Nat} {key value : List Char} {q : Char}
    (hq : q = '"' ∨ q = '\'') (hvalue : q ∉ value) (hnew : before.lookup key = none)
    (h : (q :: (value ++ q :: rest)).length < cs.length) :
    ∃ next hnext, findValue cs before start key offset (q :: (value ++ q :: rest)) h
      = .one start ⟨key, value⟩ next rest hnext := by
  have hspace : Text.isXmlSpace q = false := by
    rcases hq with rfl | rfl <;> decide
  have hne : ∀ d ∈ value, decide (d ≠ q) = true := fun d hd => by
    rw [decide_eq_true_eq]
    rintro rfl
    exact hvalue hd
  have hlt : rest.length < cs.length := by
    simp only [List.length_cons, List.length_append] at h
    omega
  have htake := takeWhile_append_cons rest hne (by simp : decide (q ≠ q) = false)
  have hdrop := dropWhile_append_cons rest hne (by simp : decide (q ≠ q) = false)
  unfold findValue
  split
  · next p hp => simp [hnew] at hp
  · dsimp only
    split
    · next hnil => simp [skipSpace_of_not_isXmlSpace hspace] at hnil
    · next q' body hbody =>
      rw [skipSpace_of_not_isXmlSpace hspace] at hbody
      obtain ⟨rfl, rfl⟩ := List.cons.inj hbody
      rw [if_pos hq]
      split
      · next hnil =>
        rw [hdrop] at hnil
        cases hnil
      · next after hafter =>
        rw [hdrop] at hafter
        obtain ⟨-, rfl⟩ := List.cons.inj hafter
        simp only [htake]
        exact ⟨_, hlt, rfl⟩

theorem skipSpace_space {c : Char} (h : Text.isXmlSpace c = false) :
    (skipSpace offset (' ' :: c :: cs)).2 = c :: cs := by
  have hspace : Text.isXmlSpace ' ' = true := by decide
  simp [skipSpace, h, hspace]

/-- An attribute that is written is found, unless its key was given before. -/
theorem findNext_text (offset : Nat) (rest : List Char) (ha : a.IsProper)
    (hnew : before.lookup a.key = none) :
    ∃ start next h, findNext before offset (a.text ++ rest) = .one start a next rest h := by
  obtain ⟨c, cs, hkey, hc, hcs⟩ := ha.key
  have htext : a.text ++ rest
      = ' ' :: c :: (cs ++ '=' :: a.quote :: (a.value ++ a.quote :: rest)) := by
    simp [RawAttribute.text, hkey]
  have hends : ∀ d ∈ cs, (! endsKey d) = true := fun d hd => by rw [hcs d hd]; rfl
  have htake := takeWhile_append_cons (a.quote :: (a.value ++ a.quote :: rest)) hends
    (rfl : (! endsKey '=') = false)
  have hdrop := dropWhile_append_cons (a.quote :: (a.value ++ a.quote :: rest)) hends
    (rfl : (! endsKey '=') = false)
  have hequals : Text.isXmlSpace '=' = false := by decide
  rw [htext]
  unfold findNext
  dsimp only
  split
  · next hnil =>
    rw [skipSpace_space hc] at hnil
    cases hnil
  · next c' tail htail =>
    rw [skipSpace_space hc] at htail
    obtain ⟨rfl, rfl⟩ := List.cons.inj htail
    split
    · next rest' hrest =>
      rw [hdrop, skipSpace_of_not_isXmlSpace hequals] at hrest
      obtain ⟨-, rfl⟩ := List.cons.inj hrest
      have hkey' : c :: (cs ++ '=' :: a.quote :: (a.value ++ a.quote :: rest)).takeWhile
          (! endsKey ·) = a.key := by rw [htake, hkey]
      simp only [hkey']
      obtain ⟨next, hnext, hfound⟩ :=
        findValue_text a.quote_eq (RawAttribute.quote_not_mem ha) hnew _
      exact ⟨_, next, hnext, hfound⟩
    · next hother =>
      rw [hdrop, skipSpace_of_not_isXmlSpace hequals] at hother
      exact absurd rfl (hother _)

/-- Attributes that are written one behind the other are all found. -/
theorem scanFrom_flatMap_text (hproper : ∀ a ∈ as, a.IsProper) (hkeys : (as.map (·.key)).Nodup)
    (hnew : ∀ a ∈ as, before.lookup a.key = none) :
    scanFrom before offset (as.flatMap RawAttribute.text) = ⟨as, none⟩ := by
  induction as generalizing before offset with
  | nil =>
    rw [List.flatMap_nil, scanFrom]
    rfl
  | cons a as ih =>
    rw [List.forall_mem_cons] at hproper hnew
    rw [List.map_cons, List.nodup_cons] at hkeys
    obtain ⟨start, next, h, hfound⟩ := findNext_text offset
      (as.flatMap RawAttribute.text) hproper.1 hnew.1
    have hrest : ∀ b ∈ as, ((a.key, start) :: before).lookup b.key = none := fun b hb => by
      have hne : b.key ≠ a.key := fun heq => hkeys.1 (heq ▸ List.mem_map_of_mem hb)
      rw [Dictionary.lookup_entry_cons, if_neg hne]
      exact hnew.2 b hb
    rw [List.flatMap_cons, scanFrom, hfound]
    simp only [ih hproper.2 hkeys.2 hrest, Scan.push]

theorem mem_of_findValue {start start' next : Nat} {key : List Char} {h : rest.length < cs.length}
    {rest' : List Char} {h' : rest'.length < cs.length}
    (hfind : findValue cs before start key offset rest h = .one start' a next rest' h') :
    a.key = key ∧ ∃ q, (q = '"' ∨ q = '\'') ∧ q ∉ a.value := by
  unfold findValue at hfind
  split at hfind
  · cases hfind
  · dsimp only at hfind
    split at hfind
    · cases hfind
    · next q body _ =>
      split at hfind
      · next hq =>
        split at hfind
        · cases hfind
        · cases hfind
          refine ⟨rfl, q, hq, fun hmem => ?_⟩
          simpa using List.mem_takeWhile_imp hmem
      · cases hfind

/-- Attributes that are found can be written. -/
theorem isProper_of_findNext {start next : Nat} {h : rest.length < cs.length}
    (hfind : findNext before offset cs = .one start a next rest h) : a.IsProper := by
  unfold findNext at hfind
  dsimp only at hfind
  split at hfind
  · cases hfind
  · next c tail hc =>
    split at hfind
    · obtain ⟨hkey, hvalue⟩ := mem_of_findValue hfind
      refine ⟨⟨c, _, hkey, ?_, fun d hd => ?_⟩, hvalue⟩
      · have hhead := List.head?_dropWhile_not Text.isXmlSpace cs
        have hdrop : cs.dropWhile Text.isXmlSpace = c :: tail := hc
        rwa [hdrop] at hhead
      · simpa using List.mem_takeWhile_imp hd
    · cases hfind

theorem isProper_of_mem_scanFrom (before : List (List Char × Nat)) (offset : Nat)
    (cs : List Char) : ∀ a ∈ (scanFrom before offset cs).attributes, a.IsProper := by
  fun_induction scanFrom before offset cs with
  | case1 before offset cs hfind => simp
  | case2 before offset cs f hfind => simp [Scan.stop]
  | case3 before offset cs start a next rest h hfind ih =>
    rw [Scan.push, List.forall_mem_cons]
    exact ⟨isProper_of_findNext hfind, ih⟩

end Attribute

namespace Tag.Lists

variable {tag : Tag} {as as' : List RawAttribute}

theorem written_eq (h : tag.Lists as) : tag.written = as :=
  congrArg Attribute.Scan.attributes h

theorem nodup_keys (h : tag.Lists as) : (as.map (·.key)).Nodup := by
  rw [← h.written_eq]
  exact (Attribute.nodup_keys _ _ _).1

theorem isProper (h : tag.Lists as) : ∀ a ∈ as, a.IsProper := by
  rw [← h.written_eq]
  exact Attribute.isProper_of_mem_scanFrom _ _ _

/-- What can be listed in one order can be listed in any. -/
theorem exists_perm (h : tag.Lists as) (hperm : as.Perm as') :
    ∃ tag' : Tag, tag'.name = tag.name ∧ tag'.Lists as' := by
  refine ⟨⟨tag.name, as'.flatMap RawAttribute.text⟩, rfl, ?_⟩
  exact Attribute.scanFrom_flatMap_text (fun a ha => h.isProper a (hperm.mem_iff.2 ha))
    ((hperm.map _).nodup_iff.1 h.nodup_keys) (fun a _ => rfl)

end Tag.Lists

/-! ## What a list of attributes says -/

namespace RawAttribute

/-- The attributes that declare no namespace. -/
def plain (as : List RawAttribute) : List RawAttribute := as.filter (! Tag.declares ·.key)

/-- An attribute stands for an expanded name and a value. -/
structure StandsFor (s : Scope) (a : RawAttribute) (x : QName × String) : Prop where
  name : s.resolveAttribute (String.ofList a.key) = .ok x.1
  value : (Entity.unescape a.value).map String.ofList = .ok x.2

/-- What an attribute stands for, if its name resolves and its value can be read. -/
def meaning? (s : Scope) (a : RawAttribute) : Option (QName × String) :=
  a.entry?.bind fun x => Opening.resolved? s (String.ofList x.1, x.2)

/-- The scope with what the attributes declare. -/
def declaredIn (outer : Scope) (as : List RawAttribute) : Scope :=
  ((⟨outer, 0, []⟩ : Opening.Sorted).addAll (as.filterMap entry?)).scope

variable {s outer : Scope} {a : RawAttribute} {as as' : List RawAttribute}

theorem meaning?_eq_some_iff {x : QName × String} : a.meaning? s = some x ↔ a.StandsFor s x := by
  unfold meaning? entry?
  cases hvalue : Entity.unescape a.value with
  | ok value =>
    simp only [Except.toOption, Option.map_some, Option.bind_some, Opening.resolved?_eq_some_iff]
    constructor
    · rintro ⟨hname, hx⟩
      exact ⟨hname, by rw [hvalue, hx]; rfl⟩
    · rintro ⟨hname, hx⟩
      rw [hvalue] at hx
      exact ⟨hname, (Except.ok.inj hx).symm⟩
  | error fault =>
    simp only [Except.toOption, Option.map_none, Option.bind_none, reduceCtorEq, false_iff]
    rintro ⟨_, hx⟩
    rw [hvalue] at hx
    cases hx

theorem filter_entries (as : List RawAttribute) :
    (as.filterMap entry?).filter (! Tag.declares ·.1) = (plain as).filterMap entry? := by
  rw [plain, List.filter_filterMap, List.filterMap_filter]
  refine List.filterMap_congr fun a _ => ?_
  unfold entry?
  cases Entity.unescape a.value with
  | ok value =>
    cases hdeclares : Tag.declares a.key <;> simp [Except.toOption, Option.filter, hdeclares]
  | error fault => simp [Except.toOption]

/-- The order of declarations does not matter. -/
theorem declaredIn_of_perm (hkeys : (as.map (·.key)).Nodup) (hperm : as.Perm as')
    (hentries : ∀ a ∈ as, a.entry?.isSome = true) :
    declaredIn outer as = declaredIn outer as' := by
  have hnodup : ((as.filterMap entry?).map (·.1)).Nodup := by
    rwa [Opening.map_key_entries hentries]
  have hentries' := hperm.filterMap entry?
  have hnodup' := (hentries'.map (·.1)).nodup_iff.1 hnodup
  have hlookup := Dictionary.lookup_eq_of_perm hnodup hentries'
  have hprefixes : (declaredIn outer as).prefixes = (declaredIn outer as').prefixes :=
    Dictionary.ext_find? fun p => by
      rw [declaredIn, declaredIn, Opening.Sorted.find?_prefixes_addAll hnodup,
        Opening.Sorted.find?_prefixes_addAll hnodup', hlookup]
  have hdefault : (declaredIn outer as).default = (declaredIn outer as').default := by
    rw [declaredIn, declaredIn, Opening.Sorted.default_addAll hnodup,
      Opening.Sorted.default_addAll hnodup', hlookup]
  exact (Scope.mk.injEq ..).mpr ⟨hprefixes, hdefault⟩

end RawAttribute

namespace Opening

open RawAttribute

variable {limits : Limits} {outer : Scope} {tag tag' : Tag} {as as' : List RawAttribute}
  {o : Opening}

/-- An attribute of a new name takes the place of no other. -/
theorem put_eq_append {done : List (QName × String)} {name : QName} (value : String)
    (hnew : name ∉ done.map (·.1)) : put name value done = done ++ [(name, value)] := by
  induction done with
  | nil => rfl
  | cons a as ih =>
    rw [List.map_cons, List.mem_cons, not_or] at hnew
    rw [put, if_neg (Ne.symm hnew.1), ih hnew.2, List.cons_append]

theorem putAll_eq_append {done named : List (QName × String)}
    (h : ((done ++ named).map (·.1)).Nodup) : putAll done named = done ++ named := by
  induction named generalizing done with
  | nil => rw [List.append_nil]; rfl
  | cons a as ih =>
    have hnew : a.1 ∉ done.map (·.1) := by
      rw [List.map_append, List.map_cons] at h
      exact fun hmem => List.disjoint_of_nodup_append h hmem List.mem_cons_self
    have happend : done ++ a :: as = done ++ [a] ++ as := by simp
    rw [putAll, List.foldl_cons, ← putAll, put_eq_append a.2 hnew, happend, ih (happend ▸ h)]

theorem length_plain {as : List RawAttribute} (h : ∀ a ∈ as, a.entry?.isSome = true) :
    ((plain as).filterMap entry?).length = (plain as).length :=
  (forall₂_filterMap fun a ha => h a (List.mem_of_mem_filter ha)).length_eq.symm

/-- The other attributes are resolved each from what it is by itself. -/
theorem resolveAll_plain_iff {s : Scope} {attributes : List (QName × String)}
    (h : ∀ a ∈ as, a.entry?.isSome = true) :
    resolveAll s [] (((plain as).filterMap entry?).map fun x => (String.ofList x.1, x.2))
        = .ok attributes ↔
      (∀ a ∈ plain as, (a.meaning? s).isSome = true) ∧
        attributes = putAll [] ((plain as).filterMap (·.meaning? s)) := by
  have hmeanings : (((plain as).filterMap entry?).map fun x => (String.ofList x.1, x.2)).filterMap
      (resolved? s) = (plain as).filterMap (·.meaning? s) := by
    rw [List.filterMap_map, List.filterMap_filterMap]
    rfl
  rw [resolveAll_eq_ok_iff, hmeanings]
  refine and_congr_left fun _ => ⟨fun hall a ha => ?_, fun hall x hx => ?_⟩
  · obtain ⟨y, hy⟩ := Option.isSome_iff_exists.1 (h a (List.mem_of_mem_filter ha))
    rw [meaning?, hy]
    exact hall _ (List.mem_map_of_mem (List.mem_filterMap.2 ⟨a, ha, hy⟩))
  · obtain ⟨y, hy, rfl⟩ := List.mem_map.1 hx
    obtain ⟨a, ha, hay⟩ := List.mem_filterMap.1 hy
    have hmeaning := hall a ha
    rwa [meaning?, hay] at hmeaning

/-- What a tag says is told by the attributes that it lists. -/
theorem ofTag_eq_ok_iff_of_lists (h : tag.Lists as) :
    ofTag limits outer tag = .ok o ↔
      (∀ a ∈ as, a.entry?.isSome = true) ∧ o.scope = declaredIn outer as ∧
        as.countP (Tag.declares ·.key) ≤ limits.namespaces ∧
        (plain as).length ≤ limits.attributes ∧
        o.scope.resolveElement (String.ofList tag.name) = .ok o.name ∧
        (∀ a ∈ plain as, (a.meaning? o.scope).isSome = true) ∧
        o.attributes = putAll [] ((plain as).filterMap (·.meaning? o.scope)) := by
  have hfault : (Attribute.scan tag.name tag.afterName).fault = none :=
    congrArg Attribute.Scan.fault h
  simp only [ofTag_eq_ok_iff, sortScan_eq_ok_iff, hfault, true_and, Tag.entries, h.written_eq,
    and_assoc, exists_and_left, exists_eq_left, Sorted.declared_addAll, Sorted.others_addAll,
    filter_entries, List.nil_append, Nat.zero_add, List.length_map]
  refine and_congr_right fun hentries => ?_
  rw [countP_entries hentries, length_plain hentries, ← declaredIn, resolveAll_plain_iff hentries]
  constructor
  · rintro ⟨hdeclared, hothers, hname, ⟨hmeanings, hattributes⟩, hscope⟩
    rw [hscope] at hname hmeanings hattributes
    exact ⟨hscope.symm, hdeclared, hothers, hname, hmeanings, hattributes⟩
  · rintro ⟨hscope, hdeclared, hothers, hname, hmeanings, hattributes⟩
    rw [hscope] at hname hmeanings hattributes
    exact ⟨hdeclared, hothers, hname, ⟨hmeanings, hattributes⟩, hscope.symm⟩

/-- With the attributes in another order the tag can be read as well, with the same
scope and the same name. -/
theorem ofTag_of_perm (h : tag.Lists as) (h' : tag'.Lists as') (hname : tag'.name = tag.name)
    (hperm : as.Perm as') (ho : ofTag limits outer tag = .ok o) :
    ofTag limits outer tag' = .ok
      ⟨o.name, putAll [] ((plain as').filterMap (·.meaning? o.scope)), o.scope⟩ := by
  obtain ⟨hentries, hscope, hdeclared, hothers, hresolved, hmeanings, _⟩ :=
    (ofTag_eq_ok_iff_of_lists h).1 ho
  have hplain : (plain as).Perm (plain as') := hperm.filter _
  rw [ofTag_eq_ok_iff_of_lists h']
  refine ⟨fun a ha => hentries a (hperm.mem_iff.2 ha), ?_, ?_, ?_, ?_, fun a ha => ?_, rfl⟩
  · exact hscope.trans (declaredIn_of_perm h.nodup_keys hperm hentries)
  · rw [← hperm.countP_eq]
    exact hdeclared
  · rw [← hplain.length_eq]
    exact hothers
  · rw [hname]
    exact hresolved
  · exact hmeanings a (hplain.mem_iff.2 ha)

theorem map_resolveAttribute {s : Scope} {xs : List (QName × String)}
    (h : List.Forall₂ (StandsFor s) as xs) :
    as.map (fun a => s.resolveAttribute (String.ofList a.key)) = xs.map fun x => .ok x.1 := by
  induction h with
  | nil => rfl
  | cons hx _ ih => rw [List.map_cons, List.map_cons, hx.name, ih]

/-- Where no two attributes have the same expanded name, each of them that declares
nothing is there, as what it stands for. -/
theorem standFor_of_nodup (h : tag.Lists as) (ho : ofTag limits outer tag = .ok o)
    (hnodup : ((plain as).map fun a => o.scope.resolveAttribute (String.ofList a.key)).Nodup) :
    o.attributes = (plain as).filterMap (·.meaning? o.scope) ∧
      List.Forall₂ (StandsFor o.scope) (plain as) o.attributes := by
  obtain ⟨_, _, _, _, _, hmeanings, hattributes⟩ := (ofTag_eq_ok_iff_of_lists h).1 ho
  have hstand : List.Forall₂ (StandsFor o.scope) (plain as)
      ((plain as).filterMap (·.meaning? o.scope)) :=
    (forall₂_filterMap hmeanings).imp fun a x hx => meaning?_eq_some_iff.1 hx
  have hdistinct : (((plain as).filterMap (·.meaning? o.scope)).map (·.1)).Nodup := by
    rw [map_resolveAttribute hstand] at hnodup
    exact .of_map Except.ok (by rwa [List.map_map])
  rw [putAll_eq_append (by simpa using hdistinct), List.nil_append] at hattributes
  exact ⟨hattributes, hattributes ▸ hstand⟩

/-! ## The law -/

/-- The attributes of a tag may be given in any order. In each the tag can be read or
in none, and then it has the same name and the same scope, in which all that is
declared is in force; and if no two attributes have the same expanded name, it has the
same attributes, one for each of those that declare nothing. -/
theorem the_order_of_attributes_does_not_matter (limits : Limits) (outer : Scope) {tag : Tag}
    {as as' : List RawAttribute} (h : tag.Lists as) (hperm : as.Perm as') :
    (∃ tag' : Tag, tag'.name = tag.name ∧ tag'.Lists as') ∧
      ∀ tag' : Tag, tag'.name = tag.name → tag'.Lists as' →
        ((∃ o, ofTag limits outer tag = .ok o) ↔ ∃ o, ofTag limits outer tag' = .ok o) ∧
          ∀ o o', ofTag limits outer tag = .ok o → ofTag limits outer tag' = .ok o' →
            o'.name = o.name ∧ o'.scope = o.scope ∧ o.IsOf outer tag ∧
              (((plain as).map fun a => o.scope.resolveAttribute (String.ofList a.key)).Nodup →
                List.Forall₂ (StandsFor o.scope) (plain as) o.attributes ∧
                  o.attributes.Perm o'.attributes) := by
  refine ⟨h.exists_perm hperm, fun tag' hname h' => ⟨⟨?_, ?_⟩, fun o o' ho ho' => ?_⟩⟩
  · rintro ⟨o, ho⟩
    exact ⟨_, ofTag_of_perm h h' hname hperm ho⟩
  · rintro ⟨o, ho⟩
    exact ⟨_, ofTag_of_perm h' h hname.symm hperm.symm ho⟩
  · have hsame := ofTag_of_perm h h' hname hperm ho
    rw [ho'] at hsame
    obtain rfl := Except.ok.inj hsame
    refine ⟨rfl, rfl, isOf_of_ofTag ho, fun hnodup => ?_⟩
    have hplain : (plain as).Perm (plain as') := hperm.filter _
    obtain ⟨hattributes, hstand⟩ := standFor_of_nodup h ho hnodup
    obtain ⟨hattributes', _⟩ := standFor_of_nodup h' ho' ((hplain.map _).nodup_iff.1 hnodup)
    refine ⟨hstand, ?_⟩
    rw [hattributes, hattributes']
    exact hplain.filterMap _

/-- A name, then the declaration that it needs. -/
def exampleLate : Tag := ⟨"e".toList, " p:x='1' xmlns:p=\"u\" y='2'".toList⟩

def exampleEarly : Tag := ⟨"e".toList, " xmlns:p='u' y='2' p:x='1'".toList⟩

def exampleAttributes : List RawAttribute :=
  [⟨"p:x".toList, "1".toList⟩, ⟨"xmlns:p".toList, "u".toList⟩, ⟨"y".toList, "2".toList⟩]

def exampleOpening : Opening :=
  ⟨⟨none, "e"⟩, [(⟨some "u", "x"⟩, "1"), (⟨none, "y"⟩, "2")], Scope.empty.bind "p" "u"⟩

theorem a_prefix_may_be_declared_behind_its_use :
    exampleLate.Lists exampleAttributes ∧
      exampleEarly.Lists (exampleAttributes.drop 1 ++ exampleAttributes.take 1) ∧
      ofTag .standard .empty exampleLate = .ok exampleOpening ∧
      ∃ o, ofTag .standard .empty exampleEarly = .ok o ∧ o.scope = exampleOpening.scope ∧
        exampleOpening.attributes.Perm o.attributes := by
  have h : exampleLate.Lists exampleAttributes := by
    unfold Tag.Lists
    decide +kernel
  have h' : exampleEarly.Lists (exampleAttributes.drop 1 ++ exampleAttributes.take 1) := by
    unfold Tag.Lists
    decide +kernel
  have hperm : exampleAttributes.Perm (exampleAttributes.drop 1 ++ exampleAttributes.take 1) := by
    decide
  have ho : ofTag .standard .empty exampleLate = .ok exampleOpening := by decide +kernel
  have hnodup : ((plain exampleAttributes).map fun a =>
      exampleOpening.scope.resolveAttribute (String.ofList a.key)).Nodup := by
    decide +kernel
  obtain ⟨hiff, hsame⟩ :=
    (the_order_of_attributes_does_not_matter .standard .empty h hperm).2 exampleEarly rfl h'
  obtain ⟨o, hearly⟩ := hiff.1 ⟨exampleOpening, ho⟩
  obtain ⟨_, hscope, _, hattributes⟩ := hsame exampleOpening o ho hearly
  exact ⟨h, h', ho, o, hearly, hscope, (hattributes hnodup).2⟩

end Opening

end Wsdl.Xml
