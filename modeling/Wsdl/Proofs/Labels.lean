-- Where the labels of references come from. A reference keeps the label that
-- is written. A binding has to look up the operation that it binds to fill in
-- the others, and it does so before any binding is there. It finds what would
-- be found at the end, so a bound reference and the one of its operation get
-- the same label.
import Mathlib.Data.List.Forall2
import Wsdl.Component.Derive
import Wsdl.Proofs.Inheritance

open Relation

namespace Wsdl

/-! ## References -/

/-- What an operation refers to. -/
inductive ReferenceKind where
  | message
  | fault
  deriving DecidableEq, Repr

/-- The label that a pattern gives to a reference. -/
def ReferenceKind.label : ReferenceKind → Pattern → Direction → Option String
  | message => Pattern.messageLabel
  | fault => Pattern.faultLabel

/-- The references of one kind, each for its direction and the label that is
written. -/
def Written.Operation.references (o : Written.Operation) :
    ReferenceKind → List (Direction × Option String)
  | .message => o.messages.map fun m => (m.direction, m.label)
  | .fault => o.faults.map fun f => (f.direction, f.label)

def Written.BindingOperation.references (o : Written.BindingOperation) :
    ReferenceKind → List (Direction × Option String)
  | .message => o.messages.map fun m => (m.direction, m.label)
  | .fault => o.faults.map fun f => (f.direction, f.label)

namespace Component

def Operation.references (o : Operation) :
    ReferenceKind → List (Option Direction × Option String)
  | .message => o.messages.map fun m => (m.direction, m.label)
  | .fault => o.faults.map fun f => (f.direction, f.label)

def BindingOperation.references (o : BindingOperation) :
    ReferenceKind → List (Option Direction × Option String)
  | .message => o.messages.map fun m => (m.direction, m.label)
  | .fault => o.faults.map fun f => (f.direction, f.label)

/-! ## Labels -/

/-- The predefined pattern that an operation follows, if it follows one. -/
def Operation.predefined (o : Operation) : Option Pattern := o.pattern.bind Pattern.find?

/-- How a reference has its label, where `default` is the one that a pattern
gives: it keeps the one that is written, else it follows the pattern of the
operation, else it lacks one. -/
structure TakesLabel (default : Pattern → Option String) (op : Option Operation)
    (written label : Option String) : Prop where
  keeps : ∀ l, written = some l → label = some l
  follows : written = none → ∀ o p, op = some o → o.predefined = some p → label = default p
  lacks : written = none → (∀ o, op = some o → o.predefined = none) → label = none

/-- Each reference has the direction that is written, and takes its label
after `op`. -/
def Labelled (k : ReferenceKind) (op : Option Operation)
    (written : List (Direction × Option String))
    (derived : List (Option Direction × Option String)) : Prop :=
  List.Forall₂ (fun x y => y.1 = some x.1 ∧ TakesLabel (k.label · x.1) op x.2 y.2) written derived

/-- What those references of a direction got that have no label written. -/
def filledIn (dir : Direction) (written : List (Direction × Option String))
    (derived : List (Option Direction × Option String)) : List (Option String) :=
  ((written.zip derived).filter (·.1 == (dir, none))).map (·.2.2)

section

variable {default : Pattern → Option String} {k : ReferenceKind} {op : Option Operation}
  {dir : Direction} {written written' : List (Direction × Option String)}
  {derived derived' : List (Option Direction × Option String)} {l l' : Option String}

theorem takesLabel_or (default : Pattern → Option String) (op : Option Operation)
    (written : Option String) :
    TakesLabel default op written (written.or ((op.bind (·.predefined)).bind default)) where
  keeps := by
    rintro l rfl
    rfl
  follows := by
    rintro rfl o p rfl hp
    simp [hp]
  lacks := by
    rintro rfl hlacks
    rcases op with _ | o
    · rfl
    · simp [hlacks o rfl]

/-- There is only one label that a reference without one can take. -/
theorem TakesLabel.eq_of_none (h : TakesLabel default op none l) :
    l = (op.bind (·.predefined)).bind default := by
  rcases hp : op.bind (·.predefined) with _ | p
  · refine h.lacks rfl fun o ho => ?_
    simpa [ho] using hp
  · obtain ⟨o, ho, hop⟩ := Option.bind_eq_some_iff.1 hp
    exact h.follows rfl o p ho hop

theorem labelled_map {α : Type} {p : Option Pattern} (hp : p = op.bind (·.predefined))
    (direction : α → Direction) (label : α → Option String) (xs : List α) :
    Labelled k op (xs.map fun x => (direction x, label x))
      (xs.map fun x => (some (direction x), (label x).or (p.bind (k.label · (direction x))))) := by
  rw [Labelled, List.forall₂_map_left_iff, List.forall₂_map_right_iff, List.forall₂_same]
  intro x _
  subst hp
  exact ⟨rfl, takesLabel_or _ op (label x)⟩

theorem Labelled.of_mem_filledIn (h : Labelled k op written derived)
    (hl : l ∈ filledIn dir written derived) :
    l = (op.bind (·.predefined)).bind (k.label · dir) := by
  obtain ⟨⟨x, y⟩, hxy, rfl⟩ := List.mem_map.1 hl
  obtain ⟨hzip, hx⟩ := List.mem_filter.1 hxy
  obtain rfl : x = (dir, none) := by simpa using hx
  exact (List.forall₂_zip h hzip).2.eq_of_none

/-- References of one direction that are labelled after the same operation
are filled in alike. -/
theorem Labelled.filledIn_eq (h : Labelled k op written derived)
    (h' : Labelled k op written' derived') (hl : l ∈ filledIn dir written derived)
    (hl' : l' ∈ filledIn dir written' derived') : l = l' :=
  (h.of_mem_filledIn hl).trans (h'.of_mem_filledIn hl').symm

end

/-! ## Operations -/

/-- The operation is one of the description's, and `wop` is how it is
written. -/
def WrittenAs (w : Written.Description) (op : Operation) (wop : Written.Operation) : Prop :=
  ∃ i ∈ w.interfaces, wop ∈ i.operations ∧ op = deriveOperation w i.styleDefault wop

section

variable {w : Written.Description} {d : Description} {i j : Interface} {op : Operation}
  {wop : Written.Operation} {o : BindingOperation} {wo : Written.BindingOperation}

/-- The references of an operation are labelled after the operation
itself. -/
theorem WrittenAs.labelled (h : WrittenAs w op wop) (k : ReferenceKind) :
    Labelled k (some op) (wop.references k) (op.references k) := by
  obtain ⟨i, _, _, rfl⟩ := h
  have hp : Pattern.find? wop.patternIri
      = (some (deriveOperation w i.styleDefault wop)).bind (·.predefined) := rfl
  cases k with
  | message =>
    rw [Operation.references, deriveOperation, List.map_map]
    exact labelled_map hp _ _ _
  | fault =>
    rw [Operation.references, deriveOperation, List.map_map]
    exact labelled_map hp _ _ _

/-- Those of a binding operation are labelled after the operation whose
pattern it is given. -/
theorem labelled_deriveBindingOperation {i : Option Interface} {op : Option Operation}
    (hp : patternOf d i wo.operation = op.bind (·.predefined)) (k : ReferenceKind) :
    Labelled k op (wo.references k) ((deriveBindingOperation d i wo).references k) := by
  cases k with
  | message =>
    rw [BindingOperation.references, deriveBindingOperation, List.map_map]
    exact labelled_map hp _ _ _
  | fault =>
    rw [BindingOperation.references, deriveBindingOperation, List.map_map]
    exact labelled_map hp _ _ _

/-- Steps do not leave the description. -/
theorem mem_interfaces_of_steps (h : ReflTransGen d.Successor i j) (hi : i ∈ d.interfaces) :
    j ∈ d.interfaces := by
  rcases h.cases_tail with rfl | ⟨_, _, _, _, hj⟩
  · exact hi
  · exact Description.mem_of_interface? hj

/-- Every operation that an interface has, or inherits, is written in one of
the interfaces. -/
theorem exists_writtenAs (hi : i ∈ (derive w).interfaces) (hop : op ∈ (derive w).operationsOf i) :
    ∃ wop, WrittenAs w op wop := by
  obtain ⟨j, hij, hop⟩ := Description.mem_operationsOf_iff.1 hop
  obtain ⟨wi, hwi, rfl⟩ := List.mem_map.1 (mem_interfaces_of_steps hij hi)
  obtain ⟨wop, hwop, rfl⟩ := List.mem_map.1 hop
  exact ⟨wop, wi, hwi, hwop, rfl⟩

theorem exists_writtenAs_of_operationIn {b : Binding} (h : o.operationIn b (derive w) = some op) :
    ∃ wop, WrittenAs w op wop := by
  obtain ⟨_, _, hq⟩ := Option.bind_eq_some_iff.1 h
  obtain ⟨i, hi, hop⟩ := Option.bind_eq_some_iff.1 hq
  obtain ⟨_, _, hi⟩ := Option.bind_eq_some_iff.1 hi
  exact exists_writtenAs (Description.mem_of_interface? hi) (List.mem_of_find?_eq_some hop)

end

/-! ## Looking up before there are bindings -/

/-- Only interfaces are looked at to find an operation, and they are all
there when the bindings are derived. -/
theorem operationIn_interfacePart (w : Written.Description) (b : Binding) (o : BindingOperation) :
    o.operationIn b (interfacePart w) = o.operationIn b (derive w) := by
  have h : (interfacePart w).interface? = (derive w).interface? := rfl
  simp only [BindingOperation.operationIn, Binding.interfaceIn, h, Description.operation?_congr h]

/-- The pattern that a binding operation is given is that of the operation
that is found. -/
theorem patternOf_eq (d : Description) (b : Binding) (o : BindingOperation) :
    patternOf d (b.interfaceIn d) o.operation = (o.operationIn b d).bind (·.predefined) := by
  rw [patternOf, BindingOperation.operationIn]
  rcases o.operation with _ | q <;> rcases b.interfaceIn d with _ | i
  · rfl
  · rfl
  · rfl
  · exact Option.bind_assoc _ _ _

/-! ## The law -/

/-- What is looked up for a binding while it is derived is what is found in
the description that comes out. Each reference of a binding operation keeps
the label that is written, or else is labelled after the operation that is
found. That operation's own references are labelled after it too, so those of
one direction that are filled in get the same label on both. -/
theorem bound_references_are_labelled_as_those_of_their_operation (w : Written.Description) :
    (∀ (b : Binding) (o : BindingOperation),
      o.operationIn b (interfacePart w) = o.operationIn b (derive w) ∧
      patternOf (interfacePart w) (b.interface.bind (interfacePart w).interface?) o.operation
        = (o.operationIn b (derive w)).bind (·.predefined)) ∧
    List.Forall₂ (fun (wb : Written.Binding) (b : Binding) =>
      List.Forall₂ (fun (wo : Written.BindingOperation) (o : BindingOperation) =>
        (∀ k, Labelled k (o.operationIn b (derive w)) (wo.references k) (o.references k)) ∧
        ∀ op, o.operationIn b (derive w) = some op →
          (∃ wop, WrittenAs w op wop) ∧
          ∀ wop, WrittenAs w op wop → ∀ k,
            Labelled k (some op) (wop.references k) (op.references k) ∧
            ∀ dir, ∀ l ∈ filledIn dir (wo.references k) (o.references k),
              ∀ l' ∈ filledIn dir (wop.references k) (op.references k), l = l')
        wb.operations b.operations) w.bindings (derive w).bindings := by
  have hpattern (b : Binding) (o : BindingOperation) :
      patternOf (interfacePart w) (b.interface.bind (interfacePart w).interface?) o.operation
        = (o.operationIn b (derive w)).bind (·.predefined) := by
    rw [← operationIn_interfacePart, ← patternOf_eq]
    rfl
  refine ⟨fun b o => ⟨operationIn_interfacePart w b o, hpattern b o⟩, ?_⟩
  refine List.forall₂_map_right_iff.2 (List.forall₂_same.2 fun wb _ => ?_)
  refine List.forall₂_map_right_iff.2 (List.forall₂_same.2 fun wo _ => ?_)
  have hbound := labelled_deriveBindingOperation (hpattern (deriveBinding w (interfacePart w) wb)
    (deriveBindingOperation (interfacePart w) (wb.interface.bind (interfacePart w).interface?) wo))
  refine ⟨hbound, fun op hop => ⟨exists_writtenAs_of_operationIn hop, fun wop hwop k => ?_⟩⟩
  refine ⟨hwop.labelled k, fun dir l hl l' hl' => ?_⟩
  have hk := hbound k
  rw [hop] at hk
  exact hk.filledIn_eq (hwop.labelled k) hl hl'

/-- Says no pattern and no label. -/
def exampleAsk : Written.Operation :=
  ⟨some "ask", none, [], [⟨.outward, none, none, .nowhere⟩], [], [],
    [⟨.outward, some ⟨none, "Refused"⟩, none, .nowhere⟩], .nowhere⟩

def exampleDesk : Written.Interface := ⟨some "Desk", [], [], [], [exampleAsk], .nowhere⟩

/-- Has the operation from the desk. -/
def exampleCounter : Written.Interface :=
  ⟨some "Counter", [⟨none, "Desk"⟩], [], [], [], .nowhere⟩

/-- Says one label of three. -/
def exampleBoundAsk : Written.BindingOperation :=
  ⟨some ⟨none, "ask"⟩,
    [⟨.inward, none, .nowhere⟩, ⟨.inward, some "Mine", .nowhere⟩],
    [⟨.outward, some ⟨none, "Refused"⟩, none, .nowhere⟩], .nowhere⟩

def exampleTill : Written.Binding :=
  ⟨some "Till", some ⟨none, "Counter"⟩, none, [], [exampleBoundAsk], .nowhere⟩

def exampleShop : Written.Description :=
  ⟨none, none, [], [], none, [exampleCounter, exampleDesk], [exampleTill], [], .nowhere⟩

def exampleShopAsk : Operation := deriveOperation exampleShop [] exampleAsk

def exampleShopDesk : Interface := deriveInterface exampleShop exampleDesk

def exampleShopCounter : Interface := deriveInterface exampleShop exampleCounter

def exampleShopTill : Binding := deriveBinding exampleShop (interfacePart exampleShop) exampleTill

def exampleTillAsk : BindingOperation :=
  deriveBindingOperation (interfacePart exampleShop) (some exampleShopCounter) exampleBoundAsk

theorem exampleShop_closure :
    (interfacePart exampleShop).closure exampleShopCounter = [exampleShopDesk] := by
  have hdesk : (interfacePart exampleShop).interface? ⟨none, "Desk"⟩ = some exampleShopDesk := by
    decide
  have hend : (interfacePart exampleShop).closureFrom [exampleShopDesk] [] = [exampleShopDesk] := by
    rw [Description.closureFrom]
  exact (Description.closureFrom_cons_of_not_mem hdesk List.not_mem_nil).trans hend

/-- The counter has the operation of the desk. -/
theorem exampleShop_operation? :
    (interfacePart exampleShop).operation? exampleShopCounter ⟨none, "ask"⟩
      = some exampleShopAsk := by
  rw [Description.operation?, Description.operationsOf, Description.owners, exampleShop_closure]
  rfl

/-- The bound references that say no label have those that the inherited
operation has for them. -/
theorem the_till_is_labelled_after_what_the_counter_inherits :
    (derive exampleShop).bindings = [exampleShopTill] ∧
      exampleShopTill.operations = [exampleTillAsk] ∧
      exampleTillAsk.operationIn exampleShopTill (derive exampleShop) = some exampleShopAsk ∧
      WrittenAs exampleShop exampleShopAsk exampleAsk ∧
      exampleTillAsk.references .message
        = [(some .inward, some "In"), (some .inward, some "Mine")] ∧
      exampleTillAsk.references .fault = [(some .outward, some "Out")] ∧
      (∀ l ∈ filledIn .inward (exampleAsk.references .message)
        (exampleShopAsk.references .message), some "In" = l) ∧
      (∀ l ∈ filledIn .outward (exampleAsk.references .fault)
        (exampleShopAsk.references .fault), some "Out" = l) := by
  obtain ⟨hlookup, hbindings⟩ :=
    bound_references_are_labelled_as_those_of_their_operation exampleShop
  have hask := (List.forall₂_cons.1 (List.forall₂_cons.1 hbindings).1).1
  have hwritten : WrittenAs exampleShop exampleShopAsk exampleAsk :=
    ⟨exampleDesk, by simp [exampleShop], by simp [exampleDesk], rfl⟩
  have hfound : exampleTillAsk.operationIn exampleShopTill (derive exampleShop)
      = some exampleShopAsk := (hlookup _ _).1.symm.trans exampleShop_operation?
  have hpattern : patternOf (interfacePart exampleShop) (some exampleShopCounter)
      exampleBoundAsk.operation = exampleShopAsk.predefined := by
    have hp := (hlookup exampleShopTill exampleTillAsk).2
    rwa [hfound] at hp
  have hmessages : exampleTillAsk.references .message
      = [(some .inward, some "In"), (some .inward, some "Mine")] := by
    rw [exampleTillAsk, deriveBindingOperation, hpattern]
    decide
  have hfaults : exampleTillAsk.references .fault = [(some .outward, some "Out")] := by
    rw [exampleTillAsk, deriveBindingOperation, hpattern]
    decide
  have hin : some "In" ∈ filledIn .inward (exampleBoundAsk.references .message)
      (exampleTillAsk.references .message) := by
    rw [hmessages]
    decide
  have hout : some "Out" ∈ filledIn .outward (exampleBoundAsk.references .fault)
      (exampleTillAsk.references .fault) := by
    rw [hfaults]
    decide
  have halike := (hask.2 exampleShopAsk hfound).2 exampleAsk hwritten
  exact ⟨rfl, rfl, hfound, hwritten, hmessages, hfaults,
    (halike .message).2 .inward (some "In") hin, (halike .fault).2 .outward (some "Out") hout⟩

end Component

end Wsdl
