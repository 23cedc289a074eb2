-- A finite map from texts to texts. The entries stand in ascending order
-- of their keys, so two dictionaries with the same answers are equal.

namespace Wsdl

/-- A finite map from texts to texts, each key once and in order. -/
structure Dictionary where
  entries : List (String × String)
  sorted : entries.Pairwise fun a b => a.1 < b.1
  deriving DecidableEq, Repr

namespace Dictionary

theorem lt_of_not_lt_of_ne {a b : String} (h : ¬ a < b) (g : a ≠ b) : b < a := by
  have hle : b ≤ a := String.not_lt.1 h
  exact Decidable.byContradiction fun hn => g (String.le_antisymm (String.not_lt.1 hn) hle)

/-! ## Operations on the entries -/

/-- Puts an entry in its place, over the one with the same key. -/
def put (k v : String) : List (String × String) → List (String × String)
  | [] => [(k, v)]
  | e :: es =>
    if k < e.1 then (k, v) :: e :: es
    else if k = e.1 then (k, v) :: es
    else e :: put k v es

theorem mem_put {k v : String} {es : List (String × String)} {x : String × String}
    (h : x ∈ put k v es) : x = (k, v) ∨ x ∈ es := by
  induction es with
  | nil => simpa [put] using h
  | cons e es ih =>
    unfold put at h
    split at h
    · simpa using h
    · split at h
      · rcases List.mem_cons.1 h with h | h <;> simp [h]
      · rcases List.mem_cons.1 h with h | h
        · simp [h]
        · rcases ih h with h | h <;> simp [h]

theorem sorted_put (k v : String) {es : List (String × String)}
    (h : es.Pairwise fun a b => a.1 < b.1) : (put k v es).Pairwise fun a b => a.1 < b.1 := by
  induction es with
  | nil => simp [put]
  | cons e es ih =>
    obtain ⟨he, hes⟩ := List.pairwise_cons.1 h
    unfold put
    split
    · rename_i hk
      refine List.pairwise_cons.2 ⟨fun x hx => ?_, h⟩
      rcases List.mem_cons.1 hx with rfl | hx
      · exact hk
      · exact String.lt_trans hk (he x hx)
    · split
      · rename_i _ hk
        subst hk
        exact List.pairwise_cons.2 ⟨he, hes⟩
      · rename_i hk hne
        refine List.pairwise_cons.2 ⟨fun x hx => ?_, ih hes⟩
        rcases mem_put hx with rfl | hx
        · exact lt_of_not_lt_of_ne hk hne
        · exact he x hx

/-! ## The dictionary -/

/-- The dictionary without entries. -/
def empty : Dictionary := ⟨[], List.Pairwise.nil⟩

instance : Inhabited Dictionary := ⟨empty⟩

/-- The number of entries. -/
def size (d : Dictionary) : Nat := d.entries.length

def isEmpty (d : Dictionary) : Bool := d.entries.isEmpty

/-- The value of a key, if it has one. -/
def find? (d : Dictionary) (k : String) : Option String := d.entries.lookup k

/-- Gives a key a value, in place of the one it may have. -/
def insert (d : Dictionary) (k v : String) : Dictionary :=
  ⟨put k v d.entries, sorted_put k v d.sorted⟩

/-- Gives a key a value unless it has one. -/
def insertIfNew (d : Dictionary) (k v : String) : Dictionary :=
  if (d.find? k).isSome then d else d.insert k v

/-- The entries of both; where both have a key the first one's stands. -/
def merge (d e : Dictionary) : Dictionary :=
  e.entries.foldl (fun acc x => acc.insertIfNew x.1 x.2) d

/-! ## What a dictionary answers -/

@[simp] theorem find?_empty (k : String) : empty.find? k = none := rfl

theorem lookup_entry_cons {α β : Type} [BEq α] [LawfulBEq α] [DecidableEq α] (e : α × β)
    (es : List (α × β)) (k : α) :
    (e :: es).lookup k = if k = e.1 then some e.2 else es.lookup k := by
  obtain ⟨a, b⟩ := e
  rw [List.lookup_cons]
  by_cases h : k = a
  · simp [h]
  · simp [h, beq_eq_false_iff_ne.2 h]

/-- With keys that differ, each entry is what its key leads to. -/
theorem lookup_eq_some_iff_mem {α β : Type} [BEq α] [LawfulBEq α] [DecidableEq α]
    {l : List (α × β)} (h : (l.map (·.1)).Nodup) {k : α} {v : β} :
    l.lookup k = some v ↔ (k, v) ∈ l := by
  induction l with
  | nil => simp
  | cons e es ih =>
    obtain ⟨hnew, hes⟩ := List.nodup_cons.1 h
    rw [lookup_entry_cons, List.mem_cons]
    by_cases hk : k = e.1
    · subst hk
      have hnot : (e.1, v) ∉ es := fun hmem => hnew (List.mem_map.2 ⟨_, hmem, rfl⟩)
      simp [Prod.ext_iff, hnot, eq_comm]
    · have hne : (k, v) ≠ e := fun he => hk (congrArg Prod.fst he)
      simp [hk, hne, ih hes]

/-- With keys that differ, the order of the entries does not matter. -/
theorem lookup_eq_of_perm {α β : Type} [BEq α] [LawfulBEq α] [DecidableEq α] {l l' : List (α × β)}
    (h : (l.map (·.1)).Nodup) (hperm : l.Perm l') (k : α) : l.lookup k = l'.lookup k := by
  have h' : (l'.map (·.1)).Nodup := (hperm.map _).nodup_iff.1 h
  refine Option.ext fun v => ?_
  rw [lookup_eq_some_iff_mem h, lookup_eq_some_iff_mem h', hperm.mem_iff]

theorem lookup_put (k v j : String) {es : List (String × String)}
    (h : es.Pairwise fun a b => a.1 < b.1) :
    (put k v es).lookup j = if j = k then some v else es.lookup j := by
  induction es with
  | nil => rw [put, lookup_entry_cons]
  | cons e es ih =>
    obtain ⟨he, hes⟩ := List.pairwise_cons.1 h
    unfold put
    split
    · rw [lookup_entry_cons]
    · split
      · rename_i _ hk
        rw [lookup_entry_cons, lookup_entry_cons, hk]
        by_cases hj : j = e.1 <;> simp [hj]
      · rename_i hk hne
        rw [lookup_entry_cons, lookup_entry_cons, ih hes]
        by_cases hj : j = e.1
        · subst hj
          have : ¬ e.1 = k := fun hc => hne hc.symm
          simp [this]
        · simp [hj]

theorem find?_insert (d : Dictionary) (k v j : String) :
    (d.insert k v).find? j = if j = k then some v else d.find? j :=
  lookup_put k v j d.sorted

theorem find?_insertIfNew (d : Dictionary) (k v j : String) :
    (d.insertIfNew k v).find? j = (d.find? j).or (if j = k then some v else none) := by
  unfold insertIfNew
  split
  · rename_i h
    by_cases hj : j = k
    · subst hj
      obtain ⟨w, hw⟩ := Option.isSome_iff_exists.1 h
      simp [hw]
    · simp [hj]
  · rename_i h
    rw [find?_insert]
    by_cases hj : j = k
    · subst hj
      have : d.find? j = none := by simpa using h
      simp [this]
    · simp [hj]

/-- No key comes before the first one. -/
theorem lookup_eq_none_of_lt {l : List (String × String)} {k : String}
    (h : ∀ x ∈ l, k < x.1) : l.lookup k = none := by
  induction l with
  | nil => rfl
  | cons e es ih =>
    have hk : k < e.1 := h e (by simp)
    have hne : ¬ k = e.1 := fun he => String.lt_irrefl _ (he ▸ hk)
    rw [lookup_entry_cons, if_neg hne, ih fun x hx => h x (by simp [hx])]

theorem entries_ext {a b : List (String × String)}
    (ha : a.Pairwise fun x y => x.1 < y.1) (hb : b.Pairwise fun x y => x.1 < y.1)
    (h : ∀ k, a.lookup k = b.lookup k) : a = b := by
  induction a generalizing b with
  | nil =>
    cases b with
    | nil => rfl
    | cons y ys => simpa [lookup_entry_cons] using h y.1
  | cons x xs ih =>
    obtain ⟨hx, hxs⟩ := List.pairwise_cons.1 ha
    cases b with
    | nil => simpa [lookup_entry_cons] using (h x.1).symm
    | cons y ys =>
      obtain ⟨hy, hys⟩ := List.pairwise_cons.1 hb
      have hkey : x.1 = y.1 := by
        refine Decidable.byContradiction fun hne => ?_
        by_cases hlt : x.1 < y.1
        · have hn := h x.1
          rw [lookup_eq_none_of_lt (l := y :: ys) (by
            intro z hz
            rcases List.mem_cons.1 hz with rfl | hz
            · exact hlt
            · exact String.lt_trans hlt (hy z hz))] at hn
          simp [lookup_entry_cons] at hn
        · have hgt := lt_of_not_lt_of_ne hlt hne
          have hn := h y.1
          rw [lookup_eq_none_of_lt (l := x :: xs) (by
            intro z hz
            rcases List.mem_cons.1 hz with rfl | hz
            · exact hgt
            · exact String.lt_trans hgt (hx z hz))] at hn
          simp [lookup_entry_cons] at hn
      have hval : x.2 = y.2 := by
        have hn := h x.1
        rw [lookup_entry_cons, lookup_entry_cons, hkey] at hn
        simpa using hn
      have htail : xs = ys := by
        refine ih hxs hys fun k => ?_
        by_cases hk : k = x.1
        · subst hk
          rw [lookup_eq_none_of_lt hx, lookup_eq_none_of_lt (by rw [hkey]; exact hy)]
        · have hn := h k
          rwa [lookup_entry_cons, lookup_entry_cons, ← hkey, if_neg hk, if_neg hk] at hn
      rw [htail, Prod.ext hkey hval]

/-- Dictionaries that answer alike are equal. -/
theorem ext_find? {d e : Dictionary} (h : ∀ k, d.find? k = e.find? k) : d = e := by
  obtain ⟨a, ha⟩ := d
  obtain ⟨b, hb⟩ := e
  have : a = b := entries_ext ha hb h
  subst this
  rfl

end Dictionary

end Wsdl
