-- The order in which the parts of a description are written. Parts of different
-- kinds are kept apart when they are read, so only the order within a kind is
-- told. That goes for a description and for the interfaces, the bindings and the
-- operations in it.
import Wsdl.Proofs.Completeness
import Wsdl.Proofs.Extensions

namespace Wsdl

open Xml (Element)

/-! ## Other orders -/

/-- The element with other children. -/
def Xml.Element.withChildren (e : Element) (cs : List Element) : Element := { e with children := cs }

namespace Written

/-- The group that a child belongs to. Children outside of the language belong
to none. -/
def groupOf (group : String → Option String) (c : Element) : Option String :=
  if c.name.isIn wsdlNamespace then group c.localName else none

/-- The same elements in any order that keeps the order within each group. -/
structure SameGroups (group : String → Option String) (cs cs' : List Element) : Prop where
  perm : cs.Perm cs'
  groups : ∀ g, cs.filter (groupOf group · == some g) = cs'.filter (groupOf group · == some g)

/-- The element with its children in another order that keeps the order within
each group, and each of them changed inside. -/
inductive Rearranged (group : String → Option String) (Inside : Element → Element → Prop) :
    Element → Element → Prop
  | intro {e : Element} {cs cs' : List Element} (inside : List.Forall₂ Inside e.children cs)
      (order : SameGroups group cs cs') : Rearranged group Inside e (e.withChildren cs')

/-- The groups that are called like the children in them. -/
def groupAmong (names : List String) (l : String) : Option String :=
  if names.contains l then some l else none

def descriptionGroup : String → Option String :=
  groupAmong ["import", "include", "types", "interface", "binding", "service"]

/-- The groups in interfaces and in bindings. -/
def interfaceGroup : String → Option String := groupAmong ["fault", "operation"]

def operationGroup : String → Option String :=
  groupAmong ["input", "output", "infault", "outfault"]

/-- The messages of both directions are one group in a binding operation, and so
are the faults. -/
def bindingOperationGroup (l : String) : Option String :=
  if l = "input" ∨ l = "output" then some "message"
  else if l = "infault" ∨ l = "outfault" then some "fault"
  else none

/-- Changes the elements of one name in the language, and no others. -/
def Only (l : String) (R : Element → Element → Prop) (c c' : Element) : Prop :=
  c = c' ∨ (c.isNamed wsdlNamespace l ∧ R c c')

def ReorderedOperation : Element → Element → Prop := Rearranged operationGroup Eq

def ReorderedInterface : Element → Element → Prop :=
  Rearranged interfaceGroup (Only "operation" ReorderedOperation)

def ReorderedBindingOperation : Element → Element → Prop := Rearranged bindingOperationGroup Eq

def ReorderedBinding : Element → Element → Prop :=
  Rearranged interfaceGroup (Only "operation" ReorderedBindingOperation)

def InsideDescription (c c' : Element) : Prop :=
  Only "interface" ReorderedInterface c c' ∨ Only "binding" ReorderedBinding c c'

/-- The description in another order, and so the interfaces and the bindings in
it. -/
def ReorderedDescription : Element → Element → Prop :=
  Rearranged descriptionGroup InsideDescription

theorem name_of_rearranged {group : String → Option String} {Inside : Element → Element → Prop}
    {e e' : Element} (h : Rearranged group Inside e e') : e'.name = e.name := by
  cases h
  rfl

theorem name_of_only {l : String} {R : Element → Element → Prop} {c c' : Element}
    (hR : R c c' → c'.name = c.name) (h : Only l R c c') : c'.name = c.name := by
  rcases h with rfl | ⟨_, h⟩
  · rfl
  · exact hR h

/-- Neighbours of different groups can change places. -/
theorem SameGroups.swap {group : String → Option String} {a b : Element} (cs : List Element)
    (h : groupOf group a ≠ groupOf group b) : SameGroups group (a :: b :: cs) (b :: a :: cs) where
  perm := .swap b a cs
  groups g := by
    by_cases ha : groupOf group a = some g
    · have hb : groupOf group b ≠ some g := fun hb => h (ha.trans hb.symm)
      simp [ha, hb]
    · simp [List.filter_cons, ha]

/-! ## Readings that go alike -/

/-- Both fail, or both give results and these are related. -/
inductive Alike {α : Type} (R : α → α → Prop) : Except Error α → Except Error α → Prop
  | ok {a b : α} (h : R a b) : Alike R (.ok a) (.ok b)
  | error (err err' : Error) : Alike R (.error err) (.error err')

section

variable {α β : Type} {R : α → α → Prop} {S : β → β → Prop} {x y : Except Error α}

theorem alike_refl (x : Except Error α) : Alike Eq x x := by
  cases x with
  | ok a => exact .ok rfl
  | error e => exact .error e e

theorem alike_bind {f g : α → Except Error β} (hxy : Alike R x y)
    (hfg : ∀ a b, R a b → Alike S (f a) (g b)) : Alike S (x >>= f) (y >>= g) := by
  cases hxy with
  | ok h => exact hfg _ _ h
  | error e e' => exact .error e e'

/-- After the same reading, it is enough to compare what follows. -/
theorem alike_bind_same {f g : α → Except Error β} (x : Except Error α)
    (hfg : ∀ a, Alike S (f a) (g a)) : Alike S (x >>= f) (x >>= g) := by
  cases x with
  | ok a => exact hfg a
  | error e => exact .error e e

theorem alike_map (f : α → β) (hxy : Alike Eq x y) : Alike Eq (x.map f) (y.map f) := by
  cases hxy with
  | ok h => exact .ok (congrArg f h)
  | error e e' => exact .error e e'

/-- Where it is known what is given and when, it is enough to compare that. -/
theorem alike_of_eq_ok_iff {p q : Prop} {v w : α} (hx : ∀ a, x = .ok a ↔ p ∧ a = v)
    (hy : ∀ b, y = .ok b ↔ q ∧ b = w) (hpq : p ↔ q) (h : R v w) : Alike R x y := by
  by_cases hp : p
  · rw [(hx v).2 ⟨hp, rfl⟩, (hy w).2 ⟨hpq.1 hp, rfl⟩]
    exact .ok h
  · cases x with
    | ok a => exact absurd ((hx a).1 rfl).1 hp
    | error e =>
      cases y with
      | ok b => exact absurd (hpq.2 ((hy b).1 rfl).1) hp
      | error e' => exact .error e e'

theorem Alike.isOk_eq (h : Alike R x y) : x.isOk = y.isOk := by
  cases h <;> rfl

theorem Alike.toOption_eq (h : Alike Eq x y) : x.toOption = y.toOption := by
  cases h with
  | ok h => rw [h]
  | error e e' => rfl

theorem Alike.eq_of_ok {a b : α} (h : Alike Eq x y) (hx : x = .ok a) (hy : y = .ok b) : a = b := by
  subst hx hy
  cases h with
  | ok h => exact h

end

/-! ## What children give -/

section

variable {α β : Type} {f : Element → Except Error (Option α)}

/-- What a child gives, if it can be read and gives something. -/
def said (f : Element → Except Error (Option α)) (c : Element) : Option α := (f c).toOption.join

theorem eq_ok_said {c : Element} (h : (f c).isOk = true) : f c = .ok (said f c) := by
  rw [said]
  cases hc : f c with
  | ok part => rfl
  | error e =>
    rw [hc] at h
    cases h

theorem said_of_eq_ok {c : Element} {part : Option α} (h : f c = .ok part) :
    (f c).isOk = true ∧ said f c = part := by
  rw [said, h]
  exact ⟨rfl, rfl⟩

/-- Elements are read if each of them can be, and each gives what it gives by
itself. -/
theorem mapM_eq_ok_iff {es : List Element} {parts : List (Option α)} :
    es.mapM f = .ok parts ↔ (∀ c ∈ es, (f c).isOk = true) ∧ parts = es.map (said f) := by
  induction es generalizing parts with
  | nil => exact ⟨fun h => ⟨by simp, (Except.ok.inj h).symm⟩, fun h => h.2 ▸ rfl⟩
  | cons c es ih =>
    rw [List.mapM_cons, List.forall_mem_cons]
    constructor
    · intro h
      obtain ⟨part, hc, h⟩ := bind_eq_ok_iff.1 h
      obtain ⟨rest, hes, h⟩ := bind_eq_ok_iff.1 h
      obtain ⟨hok, rfl⟩ := ih.1 hes
      obtain ⟨hcok, rfl⟩ := said_of_eq_ok hc
      exact ⟨⟨hcok, hok⟩, (Except.ok.inj h).symm⟩
    · rintro ⟨⟨hc, hes⟩, rfl⟩
      rw [eq_ok_said hc, ih.2 ⟨hes, rfl⟩]
      rfl

theorem readChildren_eq_ok_iff {e : Element} {ps : List α} :
    readChildren f e = .ok ps ↔ (∀ c ∈ e.childrenIn wsdlNamespace, (f c).isOk = true) ∧
      ps = (e.childrenIn wsdlNamespace).filterMap (said f) := by
  have hmap (parts : Except Error (List (Option α))) :
      parts.map (·.filterMap id) = .ok ps ↔ ∃ as, parts = .ok as ∧ ps = as.filterMap id := by
    cases parts <;> simp [Except.map, eq_comm]
  simp only [readChildren, hmap, mapM_eq_ok_iff, and_assoc, exists_and_left, exists_eq_left,
    List.filterMap_map, Function.id_comp]

/-- The parts of each kind are the same, in the same order. -/
def SameKinds (kind : α → String) (ps qs : List α) : Prop :=
  ∀ k, ps.filter (kind · == k) = qs.filter (kind · == k)

theorem SameKinds.filterMap_eq {kind : α → String} {ps qs : List α} (h : SameKinds kind ps qs)
    (k : String) {pick : α → Option β} (hpick : ∀ p b, pick p = some b → kind p = k) :
    ps.filterMap pick = qs.filterMap pick := by
  have hkind (l : List α) : l.filterMap pick = (l.filter (kind · == k)).filterMap pick := by
    rw [List.filterMap_filter]
    refine List.filterMap_congr fun p _ => ?_
    cases hp : pick p with
    | none => simp
    | some b => simp [hpick p b hp]
  rw [hkind ps, hkind qs, h k]

end

/-! ## Children in another order -/

section

variable {α : Type} {group : String → Option String} {Inside : Element → Element → Prop}
  {f : Element → Except Error (Option α)} {kind : α → String} {e e' : Element}

theorem group_of_said (hkind : ∀ c, GivesPart (f c) fun p => group c.localName = some (kind p))
    {c : Element} {p : α} (h : said f c = some p) : group c.localName = some (kind p) := by
  cases hc : f c with
  | ok part =>
    rw [(said_of_eq_ok hc).2] at h
    exact hkind c part hc p h
  | error err =>
    rw [said, hc] at h
    cases h

theorem names_perm (hname : ∀ c c', Inside c c' → c'.name = c.name)
    (h : Rearranged group Inside e e') :
    (e.children.map (·.name)).Perm (e'.children.map (·.name)) := by
  cases h with
  | @intro cs cs' inside order =>
    have hinside {es es' : List Element} (hes : List.Forall₂ Inside es es') :
        es.map (·.name) = es'.map (·.name) := by
      induction hes with
      | nil => rfl
      | cons hc _ ih => rw [List.map_cons, List.map_cons, hname _ _ hc, ih]
    rw [hinside inside]
    exact order.perm.map _

/-- As many children have a name as in any other order. -/
theorem countP_children (hname : ∀ c c', Inside c c' → c'.name = c.name)
    (h : Rearranged group Inside e e') (l : String) :
    (e.childrenIn wsdlNamespace).countP (·.localName == l)
      = (e'.childrenIn wsdlNamespace).countP (·.localName == l) := by
  have hnames (e : Element) : (e.childrenIn wsdlNamespace).countP (·.localName == l)
      = (e.children.map (·.name)).countP fun n => n.localName == l && n.isIn wsdlNamespace := by
    rw [Element.childrenIn, List.countP_filter, List.countP_map]
    rfl
  rw [hnames, hnames, (names_perm hname h).countP_eq]

/-- The children can be read if they can in another order. -/
theorem isOk_children_iff (hf : ∀ c c', Inside c c' → Alike Eq (f c) (f c'))
    (hname : ∀ c c', Inside c c' → c'.name = c.name) (h : Rearranged group Inside e e') :
    (∀ c ∈ e.childrenIn wsdlNamespace, (f c).isOk = true)
      ↔ ∀ c ∈ e'.childrenIn wsdlNamespace, (f c).isOk = true := by
  cases h with
  | @intro cs cs' inside order =>
    have hinside {es es' : List Element} (hes : List.Forall₂ Inside es es') :
        (∀ c ∈ es, c.name.isIn wsdlNamespace → (f c).isOk = true)
          ↔ ∀ c ∈ es', c.name.isIn wsdlNamespace → (f c).isOk = true := by
      induction hes with
      | nil => exact Iff.rfl
      | cons hc _ ih =>
        rw [List.forall_mem_cons, List.forall_mem_cons, ih, (hf _ _ hc).isOk_eq, hname _ _ hc]
    simpa [Element.childrenIn, Element.withChildren, order.perm.mem_iff] using hinside inside

/-- What the children give is the same in another order, kind by kind. -/
theorem sameKinds_said (hf : ∀ c c', Inside c c' → Alike Eq (f c) (f c'))
    (hname : ∀ c c', Inside c c' → c'.name = c.name)
    (hkind : ∀ c, GivesPart (f c) fun p => group c.localName = some (kind p))
    (h : Rearranged group Inside e e') :
    SameKinds kind ((e.childrenIn wsdlNamespace).filterMap (said f))
      ((e'.childrenIn wsdlNamespace).filterMap (said f)) := by
  intro k
  -- the part of that kind that a child gives
  let part (c : Element) : Option α :=
    if c.name.isIn wsdlNamespace then (said f c).filter (kind · == k) else none
  have hpart (l : List Element) :
      ((l.filter (·.name.isIn wsdlNamespace)).filterMap (said f)).filter (kind · == k)
        = l.filterMap part := by
    rw [List.filter_filterMap, List.filterMap_filter]
  have hgroup (l : List Element) :
      l.filterMap part = (l.filter (groupOf group · == some k)).filterMap part := by
    rw [List.filterMap_filter]
    refine List.filterMap_congr fun c _ => ?_
    by_cases hc : groupOf group c = some k
    · simp [hc]
    · have hnone : part c = none := by
        refine Option.eq_none_iff_forall_ne_some.2 fun p hp => hc ?_
        simp only [part] at hp
        split at hp
        · next hin =>
          obtain ⟨hsaid, hk⟩ := Option.filter_eq_some_iff.1 hp
          rw [groupOf, if_pos hin, group_of_said hkind hsaid, beq_iff_eq.1 hk]
        · cases hp
      simp [hc, hnone]
  cases h with
  | @intro cs cs' inside order =>
    have hinside {es es' : List Element} (hes : List.Forall₂ Inside es es') :
        es.filterMap part = es'.filterMap part := by
      induction hes with
      | nil => rfl
      | @cons c c' _ _ hc _ ih =>
        have hsaid : said f c = said f c' := by rw [said, said, (hf c c' hc).toOption_eq]
        have heq : part c = part c' := by simp only [part, hsaid, hname c c' hc]
        rw [List.filterMap_cons, List.filterMap_cons, heq, ih]
    rw [Element.childrenIn, Element.childrenIn, hpart, hpart, hinside inside, hgroup cs,
      order.groups k, ← hgroup cs']
    rfl

theorem alike_readChildren (hf : ∀ c c', Inside c c' → Alike Eq (f c) (f c'))
    (hname : ∀ c c', Inside c c' → c'.name = c.name)
    (hkind : ∀ c, GivesPart (f c) fun p => group c.localName = some (kind p))
    (h : Rearranged group Inside e e') :
    Alike (SameKinds kind) (readChildren f e) (readChildren f e') :=
  alike_of_eq_ok_iff (fun _ => readChildren_eq_ok_iff) (fun _ => readChildren_eq_ok_iff)
    (isOk_children_iff hf hname h) (sameKinds_said hf hname hkind h)

/-- The same where nothing is changed inside the children. -/
theorem alike_readChildren_of_eq
    (hkind : ∀ c, GivesPart (f c) fun p => group c.localName = some (kind p))
    (h : Rearranged group Eq e e') :
    Alike (SameKinds kind) (readChildren f e) (readChildren f e') := by
  refine alike_readChildren ?_ ?_ hkind h
  · rintro c _ rfl
    exact alike_refl _
  · rintro c _ rfl
    rfl

end

/-! ## Operations and interfaces -/

section

variable {base : Option String} {c c' e e' : Element}

/-- What reads the element of one name alike reads the others alike as well. -/
theorem alike_of_only {α : Type} {f : Element → Except Error α} {l : String}
    {R : Element → Element → Prop}
    (hf : c.localName = l → c'.localName = l → R c c' → Alike Eq (f c) (f c'))
    (hR : R c c' → c'.name = c.name) (h : Only l R c c') : Alike Eq (f c) (f c') := by
  rcases h with rfl | ⟨hnamed, h⟩
  · exact alike_refl _
  · have hname : c.localName = l := beq_iff_eq.1 (Bool.and_eq_true_iff.1 hnamed).2
    exact hf hname ((congrArg QName.localName (hR h)).trans hname) h

def OperationPart.kind : OperationPart → String
  | .input _ => "input"
  | .output _ => "output"
  | .infault _ => "infault"
  | .outfault _ => "outfault"

theorem group_of_operationPart (base : Option String) (c : Element) :
    GivesPart (readOperationPart base c) fun p => operationGroup c.localName = some p.kind := by
  unfold readOperationPart
  split
  · next h => exact givesPart_map (gives_any _) fun _ _ => by rw [h]; rfl
  · next h => exact givesPart_map (gives_any _) fun _ _ => by rw [h]; rfl
  · next h => exact givesPart_map (gives_any _) fun _ _ => by rw [h]; rfl
  · next h => exact givesPart_map (gives_any _) fun _ _ => by rw [h]; rfl
  · exact givesPart_none

theorem alike_readOperation (h : ReorderedOperation e e') :
    Alike Eq (readOperation base e) (readOperation base e') := by
  have hparts : Alike (SameKinds OperationPart.kind) (readChildren (readOperationPart base) e)
      (readChildren (readOperationPart base) e') :=
    alike_readChildren_of_eq (group_of_operationPart base) h
  cases h with
  | @intro cs cs' _ _ =>
    refine alike_bind_same (requiredNCName base e "name") fun name => ?_
    refine alike_bind hparts fun ps qs hkinds => .ok ?_
    congr 1
    · exact hkinds.filterMap_eq "input" fun p m hm => by cases p <;> cases hm; rfl
    · exact hkinds.filterMap_eq "output" fun p m hm => by cases p <;> cases hm; rfl
    · exact hkinds.filterMap_eq "infault" fun p f hf => by cases p <;> cases hf; rfl
    · exact hkinds.filterMap_eq "outfault" fun p f hf => by cases p <;> cases hf; rfl

def InterfacePart.kind : InterfacePart → String
  | .fault _ => "fault"
  | .operation _ => "operation"

theorem group_of_interfacePart (base : Option String) (c : Element) :
    GivesPart (readInterfacePart base c) fun p => interfaceGroup c.localName = some p.kind := by
  unfold readInterfacePart
  split
  · next h => exact givesPart_map (gives_any _) fun _ _ => by rw [h]; rfl
  · next h => exact givesPart_map (gives_any _) fun _ _ => by rw [h]; rfl
  · exact givesPart_none

theorem alike_readInterfacePart (h : Only "operation" ReorderedOperation c c') :
    Alike Eq (readInterfacePart base c) (readInterfacePart base c') := by
  refine alike_of_only (fun hc hc' h => ?_) name_of_rearranged h
  simp only [readInterfacePart, hc, hc']
  exact alike_map _ (alike_readOperation h)

theorem alike_readInterface (h : ReorderedInterface e e') :
    Alike Eq (readInterface base e) (readInterface base e') := by
  have hparts : Alike (SameKinds InterfacePart.kind) (readChildren (readInterfacePart base) e)
      (readChildren (readInterfacePart base) e') :=
    alike_readChildren (fun _ _ => alike_readInterfacePart)
      (fun _ _ => name_of_only name_of_rearranged) (group_of_interfacePart base) h
  cases h with
  | @intro cs cs' _ _ =>
    refine alike_bind_same (requiredNCName base e "name") fun name => ?_
    refine alike_bind_same ((wordsOf e "extends").mapM (expand e)) fun qs => ?_
    refine alike_bind hparts fun ps qs hkinds => .ok ?_
    congr 1
    · exact hkinds.filterMap_eq "fault" fun p f hf => by cases p <;> cases hf; rfl
    · exact hkinds.filterMap_eq "operation" fun p o ho => by cases p <;> cases ho; rfl

/-! ## Bindings -/

def BindingOperationPart.kind : BindingOperationPart → String
  | .message _ => "message"
  | .fault _ => "fault"

theorem group_of_bindingOperationPart (base : Option String) (c : Element) :
    GivesPart (readBindingOperationPart base c) fun p =>
      bindingOperationGroup c.localName = some p.kind := by
  unfold readBindingOperationPart
  split
  · next h => exact givesPart_some (by rw [h]; rfl)
  · next h => exact givesPart_some (by rw [h]; rfl)
  · next h => exact givesPart_map (gives_any _) fun _ _ => by rw [h]; rfl
  · next h => exact givesPart_map (gives_any _) fun _ _ => by rw [h]; rfl
  · exact givesPart_none

theorem alike_readBindingOperation (h : ReorderedBindingOperation e e') :
    Alike Eq (readBindingOperation base e) (readBindingOperation base e') := by
  have hparts : Alike (SameKinds BindingOperationPart.kind)
      (readChildren (readBindingOperationPart base) e)
      (readChildren (readBindingOperationPart base) e') :=
    alike_readChildren_of_eq (group_of_bindingOperationPart base) h
  cases h with
  | @intro cs cs' _ _ =>
    refine alike_bind_same (requiredQName base e "ref") fun operation => ?_
    refine alike_bind hparts fun ps qs hkinds => .ok ?_
    congr 1
    · exact hkinds.filterMap_eq "message" fun p m hm => by cases p <;> cases hm; rfl
    · exact hkinds.filterMap_eq "fault" fun p f hf => by cases p <;> cases hf; rfl

def BindingPart.kind : BindingPart → String
  | .fault _ => "fault"
  | .operation _ => "operation"

theorem group_of_bindingPart (base : Option String) (c : Element) :
    GivesPart (readBindingPart base c) fun p => interfaceGroup c.localName = some p.kind := by
  unfold readBindingPart
  split
  · next h => exact givesPart_map (gives_any _) fun _ _ => by rw [h]; rfl
  · next h => exact givesPart_map (gives_any _) fun _ _ => by rw [h]; rfl
  · exact givesPart_none

theorem alike_readBindingPart (h : Only "operation" ReorderedBindingOperation c c') :
    Alike Eq (readBindingPart base c) (readBindingPart base c') := by
  refine alike_of_only (fun hc hc' h => ?_) name_of_rearranged h
  simp only [readBindingPart, hc, hc']
  exact alike_map _ (alike_readBindingOperation h)

theorem alike_readBinding (h : ReorderedBinding e e') :
    Alike Eq (readBinding base e) (readBinding base e') := by
  have hparts : Alike (SameKinds BindingPart.kind) (readChildren (readBindingPart base) e)
      (readChildren (readBindingPart base) e') :=
    alike_readChildren (fun _ _ => alike_readBindingPart)
      (fun _ _ => name_of_only name_of_rearranged) (group_of_bindingPart base) h
  cases h with
  | @intro cs cs' _ _ =>
    refine alike_bind_same (requiredNCName base e "name") fun name => ?_
    refine alike_bind_same ((e.nameAttribute? "interface").mapError .scope) fun interface => ?_
    refine alike_bind_same (required base e "type") fun type => ?_
    refine alike_bind hparts fun ps qs hkinds => .ok ?_
    congr 1
    · exact hkinds.filterMap_eq "fault" fun p f hf => by cases p <;> cases hf; rfl
    · exact hkinds.filterMap_eq "operation" fun p o ho => by cases p <;> cases ho; rfl

/-! ## Descriptions -/

def DescriptionPart.kind : DescriptionPart → String
  | .imported _ => "import"
  | .included _ => "include"
  | .types _ => "types"
  | .interface _ => "interface"
  | .binding _ => "binding"
  | .service _ => "service"

theorem group_of_descriptionPart (base : Option String) (c : Element) :
    GivesPart (readDescriptionPart base c) fun p => descriptionGroup c.localName = some p.kind := by
  unfold readDescriptionPart
  split
  · next h => exact givesPart_some (by rw [h]; rfl)
  · next h => exact givesPart_some (by rw [h]; rfl)
  · next h => exact givesPart_some (by rw [h]; rfl)
  · next h => exact givesPart_map (gives_any _) fun _ _ => by rw [h]; rfl
  · next h => exact givesPart_map (gives_any _) fun _ _ => by rw [h]; rfl
  · next h => exact givesPart_map (gives_any _) fun _ _ => by rw [h]; rfl
  · exact givesPart_none

theorem name_of_insideDescription (h : InsideDescription c c') : c'.name = c.name := by
  rcases h with h | h
  · exact name_of_only name_of_rearranged h
  · exact name_of_only name_of_rearranged h

theorem alike_readDescriptionPart (h : InsideDescription c c') :
    Alike Eq (readDescriptionPart base c) (readDescriptionPart base c') := by
  rcases h with h | h
  · refine alike_of_only (fun hc hc' h => ?_) name_of_rearranged h
    simp only [readDescriptionPart, hc, hc']
    exact alike_map _ (alike_readInterface h)
  · refine alike_of_only (fun hc hc' h => ?_) name_of_rearranged h
    simp only [readDescriptionPart, hc, hc']
    exact alike_map _ (alike_readBinding h)

/-- The parts are read if each of them can be and there is at most one with
types. -/
theorem readDescriptionParts_eq_ok_iff {es : List Element} {hasTypes : Bool}
    {ps : List DescriptionPart} :
    readDescriptionParts base hasTypes es = .ok ps ↔
      ((∀ c ∈ es, (readDescriptionPart base c).isOk = true) ∧
        hasTypes.toNat + es.countP (·.localName == "types") ≤ 1) ∧
      ps = es.filterMap (said (readDescriptionPart base)) := by
  induction es generalizing hasTypes ps with
  | nil =>
    rw [readDescriptionParts, List.countP_nil, List.filterMap_nil]
    constructor
    · intro h
      exact ⟨⟨by simp, Bool.toNat_le hasTypes⟩, (Except.ok.inj h).symm⟩
    · rintro ⟨_, rfl⟩
      rfl
  | cons c es ih =>
    have hcons : (c :: es).filterMap (said (readDescriptionPart base))
        = (said (readDescriptionPart base) c).toList
          ++ es.filterMap (said (readDescriptionPart base)) := by
      rw [List.filterMap_cons]
      cases said (readDescriptionPart base) c <;> rfl
    rw [List.forall_mem_cons, List.countP_cons, hcons, readDescriptionParts]
    dsimp only
    by_cases hsecond : (hasTypes && c.localName == "types") = true
    · rw [if_pos hsecond]
      constructor
      · intro h
        cases h
      · rintro ⟨⟨_, hcount⟩, _⟩
        obtain ⟨htypes, hc⟩ := Bool.and_eq_true_iff.1 hsecond
        rw [htypes, hc, if_pos rfl, Bool.toNat_true] at hcount
        omega
    · rw [if_neg hsecond]
      have hcount : (hasTypes || c.localName == "types").toNat
          = hasTypes.toNat + if c.localName == "types" then 1 else 0 := by
        cases hasTypes <;> cases h : c.localName == "types" <;> simp_all
      constructor
      · intro h
        obtain ⟨part, hc, h⟩ := bind_eq_ok_iff.1 h
        obtain ⟨rest, hes, h⟩ := bind_eq_ok_iff.1 h
        obtain ⟨⟨hok, hrest⟩, rfl⟩ := ih.1 hes
        obtain ⟨hcok, rfl⟩ := said_of_eq_ok hc
        exact ⟨⟨⟨hcok, hok⟩, by omega⟩, (Except.ok.inj h).symm⟩
      · rintro ⟨⟨⟨hc, hes⟩, hrest⟩, rfl⟩
        rw [eq_ok_said hc, ih.2 ⟨⟨hes, by omega⟩, rfl⟩]
        rfl

theorem alike_readDescriptionParts (h : ReorderedDescription e e') :
    Alike (SameKinds DescriptionPart.kind)
      (readDescriptionParts base false (e.childrenIn wsdlNamespace))
      (readDescriptionParts base false (e'.childrenIn wsdlNamespace)) := by
  have hf (c c' : Element) (hc : InsideDescription c c') :
      Alike Eq (readDescriptionPart base c) (readDescriptionPart base c') :=
    alike_readDescriptionPart hc
  have hname (c c' : Element) (hc : InsideDescription c c') : c'.name = c.name :=
    name_of_insideDescription hc
  refine alike_of_eq_ok_iff (fun _ => readDescriptionParts_eq_ok_iff)
    (fun _ => readDescriptionParts_eq_ok_iff) ?_
    (sameKinds_said hf hname (group_of_descriptionPart base) h)
  rw [countP_children hname h, isOk_children_iff hf hname h]

theorem alike_ofElement (h : ReorderedDescription e e') :
    Alike Eq (ofElement base e) (ofElement base e') := by
  have hparts : Alike (SameKinds DescriptionPart.kind)
      (readDescriptionParts base false (e.childrenIn wsdlNamespace))
      (readDescriptionParts base false (e'.childrenIn wsdlNamespace)) :=
    alike_readDescriptionParts h
  cases h with
  | @intro cs cs' _ _ =>
    have hnamed : (e.withChildren cs').isNamed wsdlNamespace "description"
        = e.isNamed wsdlNamespace "description" := rfl
    unfold ofElement
    dsimp only
    rw [hnamed]
    split
    · exact .error _ _
    · refine alike_bind_same (required base e "targetNamespace") fun target => ?_
      refine alike_bind hparts fun ps qs hkinds => .ok ?_
      congr 1
      · exact hkinds.filterMap_eq "import" fun p i hi => by cases p <;> cases hi; rfl
      · exact hkinds.filterMap_eq "include" fun p i hi => by cases p <;> cases hi; rfl
      · rw [← List.head?_filterMap, ← List.head?_filterMap]
        exact congrArg _ (hkinds.filterMap_eq "types" fun p t ht => by cases p <;> cases ht; rfl)
      · exact hkinds.filterMap_eq "interface" fun p i hi => by cases p <;> cases hi; rfl
      · exact hkinds.filterMap_eq "binding" fun p b hb => by cases p <;> cases hb; rfl
      · exact hkinds.filterMap_eq "service" fun p s hs => by cases p <;> cases hs; rfl

end

end Written

/-! ## The law -/

/-- Descriptions that differ in the order of their parts alone, and keep the order
of those of one kind, are both read or both refused. The descriptions that come of
them are the same, and so are the components. -/
theorem Sources.only_the_order_within_a_kind_is_told (s : Sources) (base : Option Iri)
    {root root' : Element} (h : Written.ReorderedDescription root root') :
    (s.ofRoot base root).isOk = (s.ofRoot base root').isOk ∧
      ∀ w w', s.ofRoot base root = .ok w → s.ofRoot base root' = .ok w' →
        w = w' ∧ Component.derive w = Component.derive w' := by
  have halike : Written.Alike Eq (s.ofRoot base root) (s.ofRoot base root') := by
    refine Written.alike_bind (Written.alike_ofElement h) fun w w' hw => ?_
    subst hw
    exact .ok rfl
  refine ⟨halike.isOk_eq, fun w w' hw hw' => ?_⟩
  have heq : w = w' := halike.eq_of_ok hw hw'
  exact ⟨heq, congrArg Component.derive heq⟩

def examplePart (name : String) (attributes : List (String × String)) (children : List Element) :
    Element :=
  exampleElement wsdlNamespace name (attributes.map fun a => (⟨none, a.1⟩, a.2)) children

def exampleTypes : Element := examplePart "types" [] []

def exampleFault : Element := examplePart "fault" [("name", "F")] []

def exampleOperation (parts : List Element) : Element :=
  examplePart "operation" [("name", "O")] parts

def exampleBinding (parts : List Element) : Element :=
  examplePart "binding" [("name", "B"), ("type", "urn:b")]
    [examplePart "operation" [("ref", "O")] parts]

def exampleRoot (children : List Element) : Element :=
  examplePart "description" [("targetNamespace", "urn:d")] children

/-- The types first, the faults before the operations, and what goes in before
what goes out. -/
def exampleTidy : Element :=
  exampleRoot [exampleTypes,
    examplePart "interface" [("name", "I")] [exampleFault,
      exampleOperation [examplePart "input" [] [], examplePart "output" [] []]],
    exampleBinding [examplePart "input" [] [], examplePart "infault" [("ref", "F")] []]]

/-- The same with everything the other way round. -/
def exampleUntidy : Element :=
  exampleRoot [examplePart "interface" [("name", "I")]
      [exampleOperation [examplePart "output" [] [], examplePart "input" [] []], exampleFault],
    exampleTypes,
    exampleBinding [examplePart "infault" [("ref", "F")] [], examplePart "input" [] []]]

theorem exampleTidy_reordered : Written.ReorderedDescription exampleTidy exampleUntidy := by
  have hoperation : Written.ReorderedOperation
      (exampleOperation [examplePart "input" [] [], examplePart "output" [] []])
      (exampleOperation [examplePart "output" [] [], examplePart "input" [] []]) :=
    .intro (List.forall₂_refl _) (.swap [] (by decide))
  have hbound : Written.ReorderedBindingOperation
      (examplePart "operation" [("ref", "O")]
        [examplePart "input" [] [], examplePart "infault" [("ref", "F")] []])
      (examplePart "operation" [("ref", "O")]
        [examplePart "infault" [("ref", "F")] [], examplePart "input" [] []]) :=
    .intro (List.forall₂_refl _) (.swap [] (by decide))
  have hinterface : Written.ReorderedInterface
      (examplePart "interface" [("name", "I")] [exampleFault,
        exampleOperation [examplePart "input" [] [], examplePart "output" [] []]])
      (examplePart "interface" [("name", "I")]
        [exampleOperation [examplePart "output" [] [], examplePart "input" [] []], exampleFault]) :=
    .intro (.cons (.inl rfl) (.cons (.inr ⟨rfl, hoperation⟩) .nil)) (.swap [] (by decide))
  have hbinding : Written.ReorderedBinding
      (exampleBinding [examplePart "input" [] [], examplePart "infault" [("ref", "F")] []])
      (exampleBinding [examplePart "infault" [("ref", "F")] [], examplePart "input" [] []]) :=
    .intro (.cons (.inr ⟨rfl, hbound⟩) .nil) ⟨.refl _, fun _ => rfl⟩
  exact .intro (.cons (.inl (.inl rfl)) (.cons (.inl (.inr ⟨rfl, hinterface⟩))
    (.cons (.inr (.inr ⟨rfl, hbinding⟩)) .nil))) (.swap _ (by decide))

theorem the_tidy_description_reads_as_the_untidy_one :
    (∃ w, exampleSources.ofRoot none exampleTidy = .ok w ∧
        exampleSources.ofRoot none exampleUntidy = .ok w) ∧
      exampleTidy.children.map (·.localName) = ["types", "interface", "binding"] ∧
      exampleUntidy.children.map (·.localName) = ["interface", "types", "binding"] := by
  obtain ⟨hok, hsame⟩ :=
    exampleSources.only_the_order_within_a_kind_is_told none exampleTidy_reordered
  have htidy : (exampleSources.ofRoot none exampleTidy).isOk = true := by decide
  rw [htidy] at hok
  refine ⟨?_, rfl, rfl⟩
  cases hw : exampleSources.ofRoot none exampleTidy with
  | error e =>
    rw [hw] at htidy
    cases htidy
  | ok w =>
    cases hw' : exampleSources.ofRoot none exampleUntidy with
    | error e =>
      rw [hw'] at hok
      cases hok
    | ok w' => exact ⟨w, rfl, by rw [(hsame w w' hw hw').1]⟩

end Wsdl
