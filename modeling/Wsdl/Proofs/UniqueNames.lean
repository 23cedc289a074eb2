-- How often a validation reports names that repeat. Of interfaces and of
-- services it reports the first name that does, and of bindings every one. The
-- table looks at the names of interfaces once more, and what it reports then is
-- dropped again.
import Mathlib.Data.Finset.Card
import Mathlib.Data.Finset.Dedup
import Wsdl.Proofs.ImportedSchemas
import Wsdl.Proofs.Repeats

namespace Wsdl

/-! ## Counting by id -/

theorem Log.countOf_append (l m : Log) (id : String) :
    Log.countOf (l ++ m) id = l.countOf id + m.countOf id := by
  simp [countOf, withId]

/-- Where every violation has the id, all of them count. -/
theorem Log.countOf_eq_length {l : Log} {id : String} (h : ∀ v ∈ l, v.id = id) :
    l.countOf id = l.length := by
  rw [countOf, withId, List.filter_eq_self.2 fun v hv => by simp [h v hv]]

theorem Log.countOf_eq_zero {l : Log} {id : String} (h : ∀ v ∈ l, v.id ≠ id) :
    l.countOf id = 0 := by
  rw [countOf, withId, List.filter_eq_nil_iff.2 fun v hv => by simp [h v hv], List.length_nil]

namespace Check

open Component

/-! ## How many entries repeat -/

section

variable {α : Type} [DecidableEq α]

/-- Each entry is new, or it is found. -/
theorem length_duplicatesFrom (seen xs : List α) :
    (duplicatesFrom seen xs).length + (xs.toFinset \ seen.toFinset).card = xs.length := by
  induction xs generalizing seen with
  | nil => simp [duplicatesFrom]
  | cons x xs ih =>
    unfold duplicatesFrom
    split
    · next hx =>
      have hseen : x ∈ seen.toFinset := by simpa using hx
      rw [List.toFinset_cons, Finset.insert_sdiff_of_mem _ hseen, List.length_cons,
        List.length_cons, ← ih seen]
      omega
    · next hx =>
      have hseen : x ∉ seen := by simpa using hx
      have hnew : (x :: xs).toFinset \ seen.toFinset
          = insert x (xs.toFinset \ (x :: seen).toFinset) := by
        ext y
        by_cases hy : y = x
        · simp [hy, hseen]
        · simp [hy]
      rw [hnew, Finset.card_insert_of_notMem (by simp), List.length_cons, ← ih (x :: seen)]
      omega

theorem length_duplicates (xs : List (Option α)) :
    (duplicates xs).length + (xs.filterMap id).dedup.length = (xs.filterMap id).length := by
  simpa [duplicates, List.card_toFinset] using length_duplicatesFrom [] (xs.filterMap id)

theorem length_firstDuplicate? (xs : List (Option α)) :
    (firstDuplicate? xs).toList.length = if (xs.filterMap id).Nodup then 0 else 1 := by
  split
  · next h =>
    rw [(firstDuplicate?_eq_none_iff xs).2 h]
    rfl
  · next h =>
    obtain ⟨x, hx⟩ := Option.ne_none_iff_exists'.1 (mt (firstDuplicate?_eq_none_iff xs).1 h)
    rw [hx]
    rfl

end

/-! ## Reports about names -/

theorem Among.countOf_eq_zero {rs : List Rule} {vs : List Violation} {id : String}
    (h : Among rs vs) (hid : ∀ r ∈ rs, r.id ≠ id) : Log.countOf vs id = 0 := by
  refine Log.countOf_eq_zero fun v hv => ?_
  obtain ⟨r, hr, hof⟩ := h v hv
  rw [hof.id_eq]
  exact hid r hr

theorem countOf_firstRepeat (r : Rule) (names : List (Option QName)) :
    Log.countOf (firstRepeat r names) r.id
      = if (names.filterMap id).Nodup then 0 else 1 := by
  have hid : ∀ v ∈ firstRepeat r names, v.id = r.id := by
    intro v hv
    obtain ⟨q, _, rfl⟩ := List.mem_map.1 hv
    rfl
  rw [Log.countOf_eq_length hid, firstRepeat, List.length_map, length_firstDuplicate?]

theorem countOf_repeatedNames (r : Rule) (owner : List String) (names : List (Option QName)) :
    Log.countOf (repeatedNames r owner names) r.id + (names.filterMap id).dedup.length
      = (names.filterMap id).length := by
  have hid : ∀ v ∈ repeatedNames r owner names, v.id = r.id := by
    intro v hv
    obtain ⟨q, _, rfl⟩ := List.mem_map.1 hv
    rfl
  rw [Log.countOf_eq_length hid, repeatedNames, List.length_map, length_duplicates]

section

variable (d : Description)

/-- Under an id that no rule for what is inside has, there are only the reports
about names. -/
theorem countOf_component {id : String} (hid : ∀ r ∈ innerRules, Rule.id r ≠ id) :
    Log.countOf (component d) id
      = Log.countOf (interfaceNames d.interfaces) id + Log.countOf (bindingNames d.bindings) id
        + Log.countOf (serviceNames d.services) id := by
  have hinterfaces : Log.countOf (d.interfaces.flatMap (interfaceChecks d)) id = 0 :=
    (among_flatMap.2 fun i _ => among_interfaceChecks d i).countOf_eq_zero hid
  have hbindings : Log.countOf (d.bindings.flatMap (bindingChecks d)) id = 0 :=
    (among_flatMap.2 fun b _ => among_bindingChecks d b).countOf_eq_zero hid
  have hservices : Log.countOf
      (d.services.flatMap fun s => s.endpoints.flatMap (endpointChecks d s)) id = 0 :=
    (among_flatMap.2 fun s _ => among_flatMap.2 fun e _ => among_endpointChecks d s e)
      |>.countOf_eq_zero hid
  have hreferences : Log.countOf (references d) id = 0 :=
    (among_references d).countOf_eq_zero hid
  simp only [component, interfaceWalk, bindingWalk, serviceWalk, Log.countOf_append, hinterfaces,
    hbindings, hservices, hreferences, Nat.add_zero]

theorem countOf_interfaceNames_of_ne {id : String} (h : Rule.interfaceNameIsUnique.id ≠ id) :
    Log.countOf (interfaceNames d.interfaces) id = 0 :=
  (among_firstRepeat (List.mem_singleton_self _) rfl).countOf_eq_zero (by simpa using h)

theorem countOf_bindingNames_of_ne {id : String} (h : Rule.bindingNameIsUnique.id ≠ id) :
    Log.countOf (bindingNames d.bindings) id = 0 :=
  (among_repeatedNames (List.mem_singleton_self _) rfl).countOf_eq_zero (by simpa using h)

theorem countOf_serviceNames_of_ne {id : String} (h : Rule.serviceNameIsUnique.id ≠ id) :
    Log.countOf (serviceNames d.services) id = 0 :=
  (among_firstRepeat (List.mem_singleton_self _) rfl).countOf_eq_zero (by simpa using h)

end

/-! ## Names in the target namespace -/

theorem qualify_injective (w : Written.Description) : Function.Injective w.qualify :=
  fun _ _ h => congrArg QName.localName h

section

variable {α β : Type} {w : Written.Description} (derived : α → β) (name : β → Option QName)
  (written : α → Option String)

/-- The names of what is derived are those that are written, in the target
namespace. -/
theorem filterMap_name_derived (h : ∀ x, name (derived x) = (written x).map w.qualify)
    (xs : List α) :
    ((xs.map derived).map name).filterMap id = (xs.filterMap written).map w.qualify := by
  rw [List.map_map, List.filterMap_map, List.map_filterMap]
  exact List.filterMap_congr fun x _ => h x

theorem countOf_firstRepeat_derived (r : Rule)
    (h : ∀ x, name (derived x) = (written x).map w.qualify) (xs : List α) :
    Log.countOf (firstRepeat r ((xs.map derived).map name)) r.id
      = if (xs.filterMap written).Nodup then 0 else 1 := by
  rw [countOf_firstRepeat, filterMap_name_derived derived name written h]
  simp only [List.nodup_map_iff (qualify_injective w)]

theorem countOf_repeatedNames_derived (r : Rule)
    (h : ∀ x, name (derived x) = (written x).map w.qualify) (xs : List α) :
    Log.countOf (repeatedNames r [] ((xs.map derived).map name)) r.id
        + (xs.filterMap written).dedup.length
      = (xs.filterMap written).length := by
  have hcount := countOf_repeatedNames r [] ((xs.map derived).map name)
  rwa [filterMap_name_derived derived name written h,
    List.dedup_map_of_injective (qualify_injective w), List.length_map, List.length_map] at hcount

end

/-! ## What the table adds -/

section

variable (resolver : Resolver) (w : Written.Description) (d : Description)

variable {resolver w} in
theorem id_ne_of_mem_namespaceReports {id : String} (h : Rule.namespaceIsAbsolute.id ≠ id)
    (h' : Rule.namespaceIsRetrievable.id ≠ id) {v : Violation}
    (hv : v ∈ namespaceReports resolver w) : v.id ≠ id := by
  rcases id_of_mem_namespaceReports hv with hid | hid
  · rwa [hid]
  · rwa [hid]

theorem countOf_namespaceReports {id : String} (h : Rule.namespaceIsAbsolute.id ≠ id)
    (h' : Rule.namespaceIsRetrievable.id ≠ id) :
    Log.countOf (namespaceReports resolver w) id = 0 :=
  Log.countOf_eq_zero fun _ hv => id_ne_of_mem_namespaceReports h h' hv

theorem countOf_interfaceReports {id : String} (h : Rule.interfaceIsAcyclic.id ≠ id) :
    Log.countOf (interfaceReports d) id = Log.countOf (interfaceNames d.interfaces) id := by
  have hcycles : Log.countOf (d.interfaces.flatMap (interfaceCycle d)) id = 0 :=
    (among_flatMap.2 fun _ _ => among_violatedIf (List.mem_singleton_self _) rfl)
      |>.countOf_eq_zero (by simpa using h)
  rw [interfaceReports, Log.countOf_append, hcycles, Nat.add_zero]

/-- Of both checks, only that of components reports under the ids of names. -/
theorem countOf_checks {id : String}
    (hid : ∀ r ∈ documentRules ++ innerRules, Rule.id r ≠ id) :
    Log.countOf (document w ++ component d) id
      = Log.countOf (interfaceNames d.interfaces) id + Log.countOf (bindingNames d.bindings) id
        + Log.countOf (serviceNames d.services) id := by
  have hdocument : Log.countOf (document w) id = 0 :=
    (among_document w).countOf_eq_zero fun r hr => hid r (List.mem_append_left _ hr)
  rw [Log.countOf_append, hdocument, Nat.zero_add,
    countOf_component d fun r hr => hid r (List.mem_append_right _ hr)]

/-- Of the reports of the table, those on interfaces are dropped. -/
theorem countOf_kept {id : String} (h : Rule.namespaceIsAbsolute.id ≠ id)
    (h' : Rule.namespaceIsRetrievable.id ≠ id) :
    Log.countOf (Log.append (document w ++ component d)
        (namespaceReports resolver w ++ interfaceReports d)) id
      = Log.countOf (document w ++ component d) id := by
  have hkept : Log.countOf ((namespaceReports resolver w ++ interfaceReports d).filter
      (! (document w ++ component d).contains ·)) id = 0 := by
    refine Log.countOf_eq_zero fun v hv => ?_
    obtain ⟨hmem, hnew⟩ := List.mem_filter.1 hv
    rcases List.mem_append.1 hmem with hv | hv
    · exact id_ne_of_mem_namespaceReports h h' hv
    · exact absurd hnew (by simp [mem_component_of_mem_interfaceReports hv])
  rw [Log.append, Log.countOf_append, hkept, Nat.add_zero]

/-- Under the ids of names, the table reports what there is about interfaces. -/
theorem countOf_later {id : String} (h : Rule.namespaceIsAbsolute.id ≠ id)
    (h' : Rule.namespaceIsRetrievable.id ≠ id) (h'' : Rule.interfaceIsAcyclic.id ≠ id) :
    Log.countOf (namespaceReports resolver w ++ interfaceReports d) id
      = Log.countOf (interfaceNames d.interfaces) id := by
  rw [Log.countOf_append, countOf_namespaceReports resolver w h h', Nat.zero_add,
    countOf_interfaceReports d h'']

end

/-! ## The law -/

/-- Without extensions, a validation reports the names of interfaces once if
two of them are the same, and those of services too, but those of bindings as
often as there are more names than different ones. The checks of the written
description and of the components come to these counts. The table then reports
nothing about the names of services and bindings, and what it reports about
those of interfaces is dropped again, so the counts stay. -/
theorem repeated_names_are_reported_once_or_one_by_one (resolver : Resolver)
    (w : Written.Description) :
    ∃ log, validate [] resolver w (derive w) = .ok log ∧
      log.countOf "Interface-1010" = (if (w.interfaces.filterMap (·.name)).Nodup then 0 else 1) ∧
      log.countOf "Service-1060" = (if (w.services.filterMap (·.name)).Nodup then 0 else 1) ∧
      log.countOf "Binding-1049" + (w.bindings.filterMap (·.name)).dedup.length
        = (w.bindings.filterMap (·.name)).length ∧
      (∀ id ∈ ["Interface-1010", "Service-1060", "Binding-1049"],
        log.countOf id = Log.countOf (document w ++ component (derive w)) id) ∧
      ∃ t later, Table.ofRegistry [] = .ok t ∧
        (t.run resolver w (derive w) (.on (document w ++ component (derive w)))).1.log
          = (document w ++ component (derive w)) ++ later ∧
        log = Log.dropRepeats ((document w ++ component (derive w)) ++ later)
          (document w ++ component (derive w)).length ∧
        Log.countOf later "Service-1060" = 0 ∧
        Log.countOf later "Binding-1049" = 0 ∧
        Log.countOf later "Interface-1010" = log.countOf "Interface-1010" := by
  have hkept (id : String) (h : Rule.namespaceIsAbsolute.id ≠ id)
      (h' : Rule.namespaceIsRetrievable.id ≠ id) := countOf_kept resolver w (derive w) h h'
  have hinterfaces : Log.countOf (document w ++ component (derive w)) "Interface-1010"
      = Log.countOf (interfaceNames (derive w).interfaces) "Interface-1010" := by
    rw [countOf_checks w (derive w) (by decide), countOf_bindingNames_of_ne _ (by decide),
      countOf_serviceNames_of_ne _ (by decide)]
    rfl
  have hbindings : Log.countOf (document w ++ component (derive w)) "Binding-1049"
      = Log.countOf (bindingNames (derive w).bindings) "Binding-1049" := by
    rw [countOf_checks w (derive w) (by decide), countOf_interfaceNames_of_ne _ (by decide),
      countOf_serviceNames_of_ne _ (by decide), Nat.zero_add, Nat.add_zero]
  have hservices : Log.countOf (document w ++ component (derive w)) "Service-1060"
      = Log.countOf (serviceNames (derive w).services) "Service-1060" := by
    rw [countOf_checks w (derive w) (by decide), countOf_interfaceNames_of_ne _ (by decide),
      countOf_bindingNames_of_ne _ (by decide), Nat.zero_add]
  refine ⟨_, validate_builtInOnly w (derive w) resolver, ?_, ?_, ?_, ?_, Table.builtInOnly, _,
    Table.ofRegistry_nil, (Table.run_builtInOnly resolver w (derive w) _).1,
    (dropRepeats_append _ _).symm, ?_, ?_, ?_⟩
  · rw [hkept _ (by decide) (by decide), hinterfaces]
    exact countOf_firstRepeat_derived (deriveInterface w) Interface.name Written.Interface.name
      .interfaceNameIsUnique (fun _ => rfl) w.interfaces
  · rw [hkept _ (by decide) (by decide), hservices]
    exact countOf_firstRepeat_derived (deriveService w) Service.name Written.Service.name
      .serviceNameIsUnique (fun _ => rfl) w.services
  · rw [hkept _ (by decide) (by decide), hbindings]
    exact countOf_repeatedNames_derived (deriveBinding w (interfacePart w)) Binding.name
      Written.Binding.name .bindingNameIsUnique (fun _ => rfl) w.bindings
  · intro id hid
    refine hkept id ?_ ?_
    · rintro rfl
      exact absurd hid (by decide)
    · rintro rfl
      exact absurd hid (by decide)
  · rw [countOf_later _ _ _ (by decide) (by decide) (by decide),
      countOf_interfaceNames_of_ne _ (by decide)]
  · rw [countOf_later _ _ _ (by decide) (by decide) (by decide),
      countOf_interfaceNames_of_ne _ (by decide)]
  · rw [countOf_later _ _ _ (by decide) (by decide) (by decide),
      hkept _ (by decide) (by decide), hinterfaces]

end Check

end Wsdl
