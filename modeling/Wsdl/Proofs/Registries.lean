-- Which registries are accepted. A registry is looked through kind by kind, and the
-- ids for a kind in order. It is accepted if no registration is at fault, and otherwise
-- the fault of the first one is given, in that order. Only what is registered for each
-- kind matters, not how the kinds are mixed.
import Wsdl.Proofs.Enumeration
import Wsdl.Proofs.Walk

namespace Wsdl.Check

/-- The id of a built-in assertion, of whatever kind. -/
def IsBuiltIn (id : String) : Prop := ∃ k, ∃ a ∈ builtIn k, a.id = id

namespace Registry

/-! ## Registrations at fault -/

/-- An earlier registration than the `n`-th one has this kind and this id. -/
def Taken (r : Registry) (n : Nat) (k : NodeKind) (id : String) : Prop :=
  ∃ m x, m < n ∧ r[m]? = some x ∧ x.kind = k ∧ x.assertion.id = id

/-- The fault of a registration. Its place is that of its kind among the kinds, and its own
in the registry. -/
inductive AtFault (r : Registry) : Nat × Nat → RegistryFault → Prop
  | emptyId {i n : Nat} {x : Registration} (hk : NodeKind.all[i]? = some x.kind)
      (hx : r[n]? = some x) (hempty : x.assertion.id = "") : r.AtFault (i, n) (.emptyId x.kind)
  | builtInId {i n : Nat} {x : Registration} (hk : NodeKind.all[i]? = some x.kind)
      (hx : r[n]? = some x) (hempty : x.assertion.id ≠ "")
      (hbuiltIn : IsBuiltIn x.assertion.id) : r.AtFault (i, n) (.builtInId x.assertion.id)
  | repeatedId {i n : Nat} {x : Registration} (hk : NodeKind.all[i]? = some x.kind)
      (hx : r[n]? = some x) (hempty : x.assertion.id ≠ "")
      (hbuiltIn : ¬ IsBuiltIn x.assertion.id) (htaken : r.Taken n x.kind x.assertion.id) :
      r.AtFault (i, n) (.repeatedId x.assertion.id x.kind)

/-- No registration is at fault. -/
structure Sound (r : Registry) : Prop where
  named : ∀ x ∈ r, x.assertion.id ≠ ""
  new : ∀ x ∈ r, ¬ IsBuiltIn x.assertion.id
  distinct : r.Pairwise fun x y => x.kind = y.kind → x.assertion.id ≠ y.assertion.id

variable {r : Registry}

theorem Sound.not_atFault (h : r.Sound) (s : Nat × Nat) (f : RegistryFault) :
    ¬ r.AtFault s f := by
  intro hf
  cases hf with
  | emptyId _ hx hempty => exact h.named _ (List.mem_of_getElem? hx) hempty
  | builtInId _ hx _ hbuiltIn => exact h.new _ (List.mem_of_getElem? hx) hbuiltIn
  | repeatedId _ hx _ _ htaken =>
    obtain ⟨m, y, hlt, hy, hkind, hid⟩ := htaken
    exact pairwise_iff_getElem?.1 h.distinct m _ y _ hlt hy hx hkind hid

theorem sound_of_not_atFault (h : ∀ s f, ¬ r.AtFault s f) : r.Sound := by
  have hplace (k : NodeKind) : ∃ i : Nat, NodeKind.all[i]? = some k :=
    List.getElem?_of_mem (NodeKind.mem_all k)
  have hnamed : ∀ x ∈ r, x.assertion.id ≠ "" := by
    intro x hx hempty
    obtain ⟨n, hn⟩ := List.getElem?_of_mem hx
    obtain ⟨i, hi⟩ := hplace x.kind
    exact h _ _ (.emptyId hi hn hempty)
  have hnew : ∀ x ∈ r, ¬ IsBuiltIn x.assertion.id := by
    intro x hx hbuiltIn
    obtain ⟨n, hn⟩ := List.getElem?_of_mem hx
    obtain ⟨i, hi⟩ := hplace x.kind
    exact h _ _ (.builtInId hi hn (hnamed x hx) hbuiltIn)
  refine ⟨hnamed, hnew, pairwise_iff_getElem?.2 ?_⟩
  intro m n x y hlt hx hy hkind hid
  obtain ⟨i, hi⟩ := hplace y.kind
  have hmem : y ∈ r := List.mem_of_getElem? hy
  have htaken : r.Taken n y.kind y.assertion.id := ⟨m, x, hlt, hx, hkind, hid⟩
  exact h _ _ (.repeatedId hi hy (hnamed y hmem) (hnew y hmem) htaken)

theorem sound_iff_not_atFault : r.Sound ↔ ∀ s f, ¬ r.AtFault s f :=
  ⟨Sound.not_atFault, sound_of_not_atFault⟩

/-! ## The search -/

theorem mem_builtInIds_iff (id : String) : id ∈ builtInIds ↔ IsBuiltIn id := by
  simp only [builtInIds, IsBuiltIn, List.mem_map, List.mem_flatMap]
  constructor
  · rintro ⟨a, ⟨k, _, ha⟩, hid⟩
    exact ⟨k, a, ha, hid⟩
  · rintro ⟨k, a, ha, hid⟩
    exact ⟨a, ⟨k, NodeKind.mem_all k, ha⟩, hid⟩

theorem mem_ids_take_iff (n : Nat) (k : NodeKind) (id : String) :
    id ∈ (assertionsFor (r.take n) k).map (·.id) ↔ r.Taken n k id := by
  simp only [assertionsFor, Taken, List.mem_map, List.mem_filter, mem_take_iff, beq_iff_eq]
  constructor
  · rintro ⟨_, ⟨x, ⟨⟨m, hlt, hx⟩, hkind⟩, rfl⟩, hid⟩
    exact ⟨m, x, hlt, hx, hkind, hid⟩
  · rintro ⟨m, x, hlt, hx, hkind, hid⟩
    exact ⟨x.assertion, ⟨x, ⟨⟨m, hlt, hx⟩, hkind⟩, rfl⟩, hid⟩

/-- The fault of a registration for a kind, with those before it. -/
def faultOf (k : NodeKind) (p : List Registration × Registration) : Option RegistryFault :=
  if p.2.kind = k then refuse k ((assertionsFor p.1 k).map (·.id)) p.2.assertion.id else none

/-- The ids that were taken are those of the registrations before. -/
theorem faultAmong_eq_findSome? (k : NodeKind) (earlier r : Registry) :
    faultAmong k ((assertionsFor earlier k).map (·.id)) ((assertionsFor r k).map (·.id))
      = (withEarlier earlier r).findSome? (faultOf k) := by
  induction r generalizing earlier with
  | nil => rfl
  | cons x r ih =>
    have hrest := ih (earlier ++ [x])
    rw [withEarlier, List.findSome?_cons]
    by_cases hx : x.kind = k
    · have htaken : (assertionsFor (earlier ++ [x]) k).map (·.id)
          = (assertionsFor earlier k).map (·.id) ++ [x.assertion.id] := by
        simp [assertionsFor, hx]
      have hids : (assertionsFor (x :: r) k).map (·.id)
          = x.assertion.id :: (assertionsFor r k).map (·.id) := by
        simp [assertionsFor, hx]
      rw [hids, faultAmong, ← htaken, hrest, faultOf, if_pos hx]
      cases refuse k ((assertionsFor earlier k).map (·.id)) x.assertion.id <;> rfl
    · have htaken : assertionsFor (earlier ++ [x]) k = assertionsFor earlier k := by
        simp [assertionsFor, hx]
      have hids : assertionsFor (x :: r) k = assertionsFor r k := by
        simp [assertionsFor, hx]
      rw [hids, ← htaken, hrest, faultOf, if_neg hx]

/-- The faults of the registrations, kind by kind. -/
def faults (r : Registry) : List RegistryFault :=
  NodeKind.all.flatMap fun k => (withEarlier [] r).filterMap (faultOf k)

theorem fault?_eq_head? (r : Registry) : r.fault? = r.faults.head? := by
  rw [fault?, faults, List.head?_flatMap]
  congr 1
  funext k
  rw [List.head?_filterMap]
  exact faultAmong_eq_findSome? k [] r

theorem refuse_eq (k : NodeKind) (taken : List String) (id : String) :
    refuse k taken id
      = if id = "" then some (.emptyId k)
        else if id ∈ builtInIds then some (.builtInId id)
        else if id ∈ taken then some (.repeatedId id k)
        else none := by
  simp only [refuse, String.isEmpty_iff, List.contains_iff_mem]

theorem atFault_iff (s : Nat × Nat) (f : RegistryFault) :
    r.AtFault s f ↔ ∃ k x, NodeKind.all[s.1]? = some k ∧ r[s.2]? = some x ∧
      faultOf k (r.take s.2, x) = some f := by
  constructor
  · intro hf
    cases hf with
    | @emptyId i n x hk hx hempty =>
      refine ⟨x.kind, x, hk, hx, ?_⟩
      rw [faultOf, if_pos rfl, refuse_eq, if_pos hempty]
    | @builtInId i n x hk hx hempty hbuiltIn =>
      refine ⟨x.kind, x, hk, hx, ?_⟩
      rw [← mem_builtInIds_iff] at hbuiltIn
      rw [faultOf, if_pos rfl, refuse_eq, if_neg hempty, if_pos hbuiltIn]
    | @repeatedId i n x hk hx hempty hbuiltIn htaken =>
      refine ⟨x.kind, x, hk, hx, ?_⟩
      rw [← mem_builtInIds_iff] at hbuiltIn
      rw [← mem_ids_take_iff] at htaken
      rw [faultOf, if_pos rfl, refuse_eq, if_neg hempty, if_neg hbuiltIn, if_pos htaken]
  · rintro ⟨k, x, hk, hx, hf⟩
    unfold faultOf at hf
    split at hf
    · next hkind =>
      subst hkind
      rw [refuse_eq] at hf
      split_ifs at hf with hempty hbuiltIn htaken
      · obtain rfl := Option.some.inj hf
        exact .emptyId hk hx hempty
      · obtain rfl := Option.some.inj hf
        rw [mem_builtInIds_iff] at hbuiltIn
        exact .builtInId hk hx hempty hbuiltIn
      · obtain rfl := Option.some.inj hf
        rw [mem_builtInIds_iff] at hbuiltIn
        rw [mem_ids_take_iff] at htaken
        exact .repeatedId hk hx hempty hbuiltIn htaken
    · cases hf

theorem enumerates_faults (r : Registry) :
    Enumerates (Prod.Lex (· < ·) (· < ·)) r.AtFault r.faults := by
  refine ((enumerates_getElem? NodeKind.all).flatMap fun k =>
    (enumerates_withEarlier r).filterMap (faultOf k)).congr fun s f => ?_
  rw [atFault_iff]
  constructor
  · rintro ⟨k, hk, ⟨_, x⟩, ⟨hx, rfl⟩, hf⟩
    exact ⟨k, x, hk, hx, hf⟩
  · rintro ⟨k, x, hk, hx, hf⟩
    exact ⟨k, hk, (r.take s.2, x), ⟨hx, rfl⟩, hf⟩

theorem fault?_eq_none_iff (r : Registry) : r.fault? = none ↔ r.Sound := by
  rw [fault?_eq_head?, List.head?_eq_none_iff, (enumerates_faults r).eq_nil_iff,
    sound_iff_not_atFault]

/-- The faults of a registry do not depend on how its kinds are mixed. -/
theorem fault?_congr {r' : Registry} (h : r.assertionsFor = r'.assertionsFor) :
    r.fault? = r'.fault? := by
  rw [fault?, fault?, h]

end Registry

/-! ## Tables -/

namespace Table

variable {r r' : Registry} {t t' : Table}

theorem ofRegistry_eq_ok_iff : (∃ t, Table.ofRegistry r = .ok t) ↔ r.fault? = none := by
  constructor
  · rintro ⟨t, ht⟩
    rw [← registry_of_ofRegistry ht]
    exact t.accepted
  · intro h
    exact ⟨⟨r, h⟩, ofRegistry_registry ⟨r, h⟩⟩

theorem ofRegistry_eq_error_iff {f : RegistryFault} :
    Table.ofRegistry r = .error f ↔ r.fault? = some f := by
  unfold ofRegistry
  split
  · next h => simp [h]
  · next g h => simp [h]

theorem nodup_ids_builtIn (k : NodeKind) : ((builtIn k).map (·.id)).Nodup := by
  cases k <;> decide

theorem nodup_ids (h : t.registry.Sound) (k : NodeKind) : (t.ids k).Nodup := by
  rw [ids, assertionsFor, List.map_append]
  refine List.nodup_append.2 ⟨nodup_ids_builtIn k, ?_, ?_⟩
  · rw [Registry.assertionsFor, List.map_map, List.Nodup, List.pairwise_map, List.pairwise_filter]
    refine h.distinct.imp ?_
    intro x y hxy hx hy
    exact hxy ((eq_of_beq hx).trans (eq_of_beq hy).symm)
  · intro id hid id' hid'
    rintro rfl
    obtain ⟨a, ha, rfl⟩ := List.mem_map.1 hid
    obtain ⟨b, hb, hab⟩ := List.mem_map.1 hid'
    obtain ⟨x, hx, rfl⟩ := List.mem_map.1 hb
    exact h.new x (List.mem_of_mem_filter hx) ⟨k, a, ha, hab.symm⟩

/-- A run goes by the assertions for each kind. -/
theorem run_congr (h : t.registry.assertionsFor = t'.registry.assertionsFor) :
    t.run = t'.run := by
  have hvisit : t.visit = t'.visit := by
    funext resolver d n
    rw [visit, visit, assertionsFor, assertionsFor, h]
  funext resolver w d s
  simp only [run, walked, walk, hvisit]

/-! ## The law -/

/-- A registry is accepted if and only if no id is empty, none is built in, and none is
registered twice for the same kind. The ids for a kind are then the built-in ones and the
registered ones in their order, and they all differ. If it is not accepted, the error is
that of the first registration at fault, by kind and then in the order of the registry.
Registries that agree kind by kind are not accepted for the same fault, or they are and
their runs agree. -/
theorem a_registry_is_accepted_unless_a_registration_is_at_fault (r : Registry) :
    ((∃ t, Table.ofRegistry r = .ok t) ↔ r.Sound) ∧
      (∀ t, Table.ofRegistry r = .ok t → ∀ k,
        t.ids k = (builtIn k).map (·.id) ++ (r.filter (·.kind == k)).map (·.assertion.id) ∧
        (t.ids k).Nodup) ∧
      (∀ f, Table.ofRegistry r = .error f → ∃ s, r.AtFault s f ∧
        ∀ s' f', r.AtFault s' f' → s' = s ∧ f' = f ∨ Prod.Lex (· < ·) (· < ·) s s') ∧
      ∀ r' : Registry, (∀ k, r.filter (·.kind == k) = r'.filter (·.kind == k)) →
        (∃ f, Table.ofRegistry r = .error f ∧ Table.ofRegistry r' = .error f) ∨
        ∃ t t', Table.ofRegistry r = .ok t ∧ Table.ofRegistry r' = .ok t' ∧
          ∀ resolver w d s, t.run resolver w d s = t'.run resolver w d s := by
  refine ⟨?_, ?_, ?_, ?_⟩
  · rw [ofRegistry_eq_ok_iff, Registry.fault?_eq_none_iff]
  · intro t ht k
    have hr := registry_of_ofRegistry ht
    refine ⟨?_, nodup_ids ((Registry.fault?_eq_none_iff _).1 t.accepted) k⟩
    rw [ids, assertionsFor, hr, List.map_append, Registry.assertionsFor, List.map_map]
    rfl
  · intro f hf
    rw [ofRegistry_eq_error_iff, Registry.fault?_eq_head?] at hf
    exact (Registry.enumerates_faults r).of_head? hf
  · intro r' hagree
    have hassertions : r.assertionsFor = r'.assertionsFor := by
      funext k
      rw [Registry.assertionsFor, Registry.assertionsFor, hagree]
    have hfault : r.fault? = r'.fault? := Registry.fault?_congr hassertions
    cases hf : r.fault? with
    | some f =>
      exact Or.inl ⟨f, ofRegistry_eq_error_iff.2 hf, ofRegistry_eq_error_iff.2 (hfault ▸ hf)⟩
    | none =>
      obtain ⟨t, ht⟩ := ofRegistry_eq_ok_iff.2 hf
      obtain ⟨t', ht'⟩ := ofRegistry_eq_ok_iff.2 (hfault ▸ hf)
      refine Or.inr ⟨t, t', ht, ht', ?_⟩
      have hrun : t.run = t'.run := by
        apply run_congr
        rw [registry_of_ofRegistry ht, registry_of_ofRegistry ht', hassertions]
      intro resolver w d s
      rw [hrun]

/-- Reports nothing. -/
def exampleSilent (id : String) : Assertion := ⟨id, fun _ _ _ => ⟨[], none⟩⟩

def exampleMixed : Registry :=
  [⟨exampleSilent "Endpoint-2", .endpoint⟩, ⟨exampleSilent "Binding-1", .binding⟩,
   ⟨exampleSilent "Endpoint-3", .endpoint⟩]

def exampleSorted : Registry :=
  [⟨exampleSilent "Binding-1", .binding⟩, ⟨exampleSilent "Endpoint-2", .endpoint⟩,
   ⟨exampleSilent "Endpoint-3", .endpoint⟩]

/-- The second registration repeats the first one's id. The third has none. -/
def exampleFaulty : Registry :=
  [⟨exampleSilent "Endpoint-2", .endpoint⟩, ⟨exampleSilent "Endpoint-2", .endpoint⟩,
   ⟨exampleSilent "", .binding⟩]

theorem the_fault_of_the_binding_comes_before_that_of_the_endpoint :
    (∃ t t', Table.ofRegistry exampleMixed = .ok t ∧ Table.ofRegistry exampleSorted = .ok t' ∧
        t.ids .endpoint = ["Endpoint-2", "Endpoint-3"] ∧
        t.run .standard exampleWritten exampleOffer (.on [])
          = t'.run .standard exampleWritten exampleOffer (.on [])) ∧
      Table.ofRegistry exampleFaulty = .error (.emptyId .binding) ∧
      exampleFaulty.AtFault (9, 1) (.repeatedId "Endpoint-2" .endpoint) ∧
      ∃ s, exampleFaulty.AtFault s (.emptyId .binding) ∧ Prod.Lex (· < ·) (· < ·) s (9, 1) := by
  have hfaulty : Table.ofRegistry exampleFaulty = .error (.emptyId .binding) :=
    ofRegistry_eq_error_iff.2 (by decide)
  have hrepeated : exampleFaulty.AtFault (9, 1) (.repeatedId "Endpoint-2" .endpoint) :=
    (Registry.atFault_iff _ _).2 ⟨.endpoint, _, rfl, rfl, by decide⟩
  obtain ⟨_, hids, _, hmixed⟩ :=
    a_registry_is_accepted_unless_a_registration_is_at_fault exampleMixed
  obtain ⟨_, _, hfirst, _⟩ :=
    a_registry_is_accepted_unless_a_registration_is_at_fault exampleFaulty
  refine ⟨?_, hfaulty, hrepeated, ?_⟩
  · have hagree : ∀ k, exampleMixed.filter (·.kind == k) = exampleSorted.filter (·.kind == k) := by
      intro k
      cases k <;> rfl
    rcases hmixed exampleSorted hagree with ⟨f, hf, _⟩ | ⟨t, t', ht, ht', hrun⟩
    · rw [ofRegistry_eq_error_iff] at hf
      have hnone : exampleMixed.fault? = none := by decide
      cases hnone.symm.trans hf
    · exact ⟨t, t', ht, ht', (hids t ht .endpoint).1, hrun .standard exampleWritten exampleOffer _⟩
  · obtain ⟨s, hs, hlater⟩ := hfirst _ hfaulty
    rcases hlater _ _ hrepeated with ⟨_, hsame⟩ | hlt
    · cases hsame
    · exact ⟨s, hs, hlt⟩

end Table

end Wsdl.Check
