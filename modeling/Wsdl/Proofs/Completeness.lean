-- What is always there in a description that was read. An element that lacks
-- what it has to say is refused, so each part that is read is complete, and the
-- parts together are. The components are complete as well, and each has the
-- name of its element.
import Mathlib.Data.List.Forall2
import Wsdl.Proofs.DroppedRepeats
import Wsdl.Reader.Basic

namespace Wsdl

/-! ## Complete descriptions -/

namespace Written

/-- There is a name, and it is an NCName. -/
def IsNamed (name : Option String) : Prop := ∃ l, name = some l ∧ isNCName l = true

/-- A reference to a fault in a direction. -/
structure FaultReference.IsComplete (d : Direction) (f : FaultReference) : Prop where
  direction : f.direction = d
  fault : f.fault.isSome = true

/-- What stands in a list has the direction of the list. -/
structure Operation.IsComplete (o : Operation) : Prop where
  name : IsNamed o.name
  inputs : ∀ m ∈ o.inputs, m.direction = .inward
  outputs : ∀ m ∈ o.outputs, m.direction = .outward
  infaults : ∀ f ∈ o.infaults, f.IsComplete .inward
  outfaults : ∀ f ∈ o.outfaults, f.IsComplete .outward

structure Interface.IsComplete (i : Interface) : Prop where
  name : IsNamed i.name
  faults : ∀ f ∈ i.faults, IsNamed f.name
  operations : ∀ o ∈ i.operations, o.IsComplete

structure BindingOperation.IsComplete (o : BindingOperation) : Prop where
  operation : o.operation.isSome = true
  faults : ∀ f ∈ o.faults, f.fault.isSome = true

structure Binding.IsComplete (b : Binding) : Prop where
  name : IsNamed b.name
  type : b.type.isSome = true
  faults : ∀ f ∈ b.faults, f.fault.isSome = true
  operations : ∀ o ∈ b.operations, o.IsComplete

structure Endpoint.IsComplete (e : Endpoint) : Prop where
  name : IsNamed e.name
  binding : e.binding.isSome = true

structure Service.IsComplete (s : Service) : Prop where
  name : IsNamed s.name
  interface : s.interface.isSome = true
  endpoints : ∀ e ∈ s.endpoints, e.IsComplete

/-- Nothing is missing that has to be there. -/
structure Description.IsComplete (w : Description) : Prop where
  targetNamespace : w.targetNamespace.isSome = true
  interfaces : ∀ i ∈ w.interfaces, i.IsComplete
  bindings : ∀ b ∈ w.bindings, b.IsComplete
  services : ∀ s ∈ w.services, s.IsComplete

/-! ## What reading gives -/

/-- If there is a result, it is as described. -/
def Gives {α : Type} (x : Except Error α) (P : α → Prop) : Prop := ∀ a, x = .ok a → P a

/-- If there is a result, it is no part, or one as described. -/
def GivesPart {α : Type} (x : Except Error (Option α)) (P : α → Prop) : Prop :=
  Gives x fun part => ∀ p, part = some p → P p

section

variable {α β : Type} {x : Except Error α} {P : α → Prop} {Q : β → Prop}

theorem gives_any (x : Except Error α) : Gives x fun _ => True := fun _ _ => trivial

theorem gives_pure {a : α} (h : P a) : Gives (pure a) P := by
  intro b hb
  obtain rfl := Except.ok.inj hb
  exact h

theorem gives_throw_bind (err : Error) (f : α → Except Error β) :
    Gives ((throw err : Except Error α) >>= f) Q := by
  intro b hb
  cases hb

theorem gives_bind {f : α → Except Error β} (hx : Gives x P) (hf : ∀ a, P a → Gives (f a) Q) :
    Gives (x >>= f) Q := by
  intro b hb
  obtain ⟨a, ha, hb⟩ := bind_eq_ok_iff.1 hb
  exact hf a (hx a ha) b hb

theorem gives_map {f : α → β} (hx : Gives x P) (hf : ∀ a, P a → Q (f a)) : Gives (x.map f) Q := by
  intro b hb
  cases x with
  | ok a =>
    obtain rfl := Except.ok.inj hb
    exact hf a (hx a rfl)
  | error e => cases hb

theorem givesPart_none : GivesPart (.ok none) P :=
  gives_pure fun _ hp => nomatch hp

theorem givesPart_some {a : α} (h : P a) : GivesPart (.ok (some a)) P :=
  gives_pure fun _ hp => Option.some.inj hp ▸ h

theorem givesPart_map {f : α → β} (hx : Gives x P) (hf : ∀ a, P a → Q (f a)) :
    GivesPart (x.map fun a => some (f a)) Q :=
  gives_map hx fun a ha _ hp => Option.some.inj hp ▸ hf a ha

theorem gives_mapM {f : α → Except Error β} {xs : List α} (h : ∀ a ∈ xs, Gives (f a) Q) :
    Gives (xs.mapM f) fun ys => ∀ y ∈ ys, Q y := by
  induction xs with
  | nil => exact gives_pure (by simp)
  | cons a as ih =>
    rw [List.mapM_cons]
    refine gives_bind (h a List.mem_cons_self) fun y hy => ?_
    refine gives_bind (ih fun a' ha' => h a' (List.mem_cons_of_mem a ha')) fun ys hys => ?_
    exact gives_pure (List.forall_mem_cons.2 ⟨hy, hys⟩)

/-- What holds of the part that a child gives holds of all that the children
give. -/
theorem gives_readChildren {f : Xml.Element → Except Error (Option α)}
    (h : ∀ c, GivesPart (f c) P) (e : Xml.Element) :
    Gives (readChildren f e) fun as => ∀ a ∈ as, P a := by
  refine gives_map (gives_mapM fun c _ => h c) fun parts hparts a ha => ?_
  obtain ⟨part, hpart, rfl⟩ := List.mem_filterMap.1 ha
  exact hparts _ hpart a rfl

/-- What holds of the parts holds of those of one kind. -/
theorem forall_mem_filterMap {ps : List α} {g : α → Option β} (hps : ∀ p ∈ ps, P p)
    (hg : ∀ p b, g p = some b → P p → Q b) : ∀ b ∈ ps.filterMap g, Q b := by
  intro b hb
  obtain ⟨p, hp, hpb⟩ := List.mem_filterMap.1 hb
  exact hg p b hpb (hps p hp)

end

section

variable (base : Option String) (e : Xml.Element)

theorem gives_requiredNCName (name : String) :
    Gives (requiredNCName base e name) fun v => IsNamed (some v) := by
  unfold requiredNCName
  refine gives_bind (gives_any _) fun v _ => ?_
  split
  · next hv => exact gives_pure ⟨v, rfl, hv⟩
  · intro v' hv'
    cases hv'

/-! ## Interfaces -/

theorem gives_readMessage (d : Direction) :
    Gives (readMessage base d e) fun m => m.direction = d := by
  unfold readMessage
  exact gives_bind (gives_any _) fun _ _ => gives_pure rfl

theorem gives_readFaultReference (d : Direction) :
    Gives (readFaultReference base d e) (FaultReference.IsComplete d) := by
  unfold readFaultReference
  exact gives_bind (gives_any _) fun _ _ => gives_pure ⟨rfl, rfl⟩

def OperationPart.IsComplete : OperationPart → Prop
  | .input m => m.direction = .inward
  | .output m => m.direction = .outward
  | .infault f => f.IsComplete .inward
  | .outfault f => f.IsComplete .outward

theorem givesPart_readOperationPart :
    GivesPart (readOperationPart base e) OperationPart.IsComplete := by
  unfold readOperationPart
  split
  · exact givesPart_map (gives_readMessage base e .inward) fun _ h => h
  · exact givesPart_map (gives_readMessage base e .outward) fun _ h => h
  · exact givesPart_map (gives_readFaultReference base e .inward) fun _ h => h
  · exact givesPart_map (gives_readFaultReference base e .outward) fun _ h => h
  · exact givesPart_none

theorem gives_readOperation : Gives (readOperation base e) Operation.IsComplete := by
  unfold readOperation
  refine gives_bind (gives_requiredNCName base e "name") fun name hname => ?_
  refine gives_bind (gives_readChildren (givesPart_readOperationPart base) e) fun parts hparts => ?_
  refine gives_pure ⟨hname, ?_, ?_, ?_, ?_⟩
  · refine forall_mem_filterMap hparts fun p m hm hp => ?_
    cases p with
    | input m' => exact Option.some.inj hm ▸ hp
    | _ => cases hm
  · refine forall_mem_filterMap hparts fun p m hm hp => ?_
    cases p with
    | output m' => exact Option.some.inj hm ▸ hp
    | _ => cases hm
  · refine forall_mem_filterMap hparts fun p f hf hp => ?_
    cases p with
    | infault f' => exact Option.some.inj hf ▸ hp
    | _ => cases hf
  · refine forall_mem_filterMap hparts fun p f hf hp => ?_
    cases p with
    | outfault f' => exact Option.some.inj hf ▸ hp
    | _ => cases hf

theorem gives_readInterfaceFault :
    Gives (readInterfaceFault base e) fun f => IsNamed f.name := by
  unfold readInterfaceFault
  refine gives_bind (gives_requiredNCName base e "name") fun name hname => ?_
  exact gives_bind (gives_any _) fun content _ => gives_pure hname

def InterfacePart.IsComplete : InterfacePart → Prop
  | .fault f => IsNamed f.name
  | .operation o => o.IsComplete

theorem givesPart_readInterfacePart :
    GivesPart (readInterfacePart base e) InterfacePart.IsComplete := by
  unfold readInterfacePart
  split
  · exact givesPart_map (gives_readInterfaceFault base e) fun _ h => h
  · exact givesPart_map (gives_readOperation base e) fun _ h => h
  · exact givesPart_none

theorem gives_readInterface : Gives (readInterface base e) Interface.IsComplete := by
  unfold readInterface
  refine gives_bind (gives_requiredNCName base e "name") fun name hname => ?_
  refine gives_bind (gives_any _) fun extended _ => ?_
  refine gives_bind (gives_readChildren (givesPart_readInterfacePart base) e) fun parts hparts => ?_
  refine gives_pure ⟨hname, ?_, ?_⟩
  · refine forall_mem_filterMap hparts fun p f hf hp => ?_
    cases p with
    | fault f' => exact Option.some.inj hf ▸ hp
    | operation o => cases hf
  · refine forall_mem_filterMap hparts fun p o ho hp => ?_
    cases p with
    | fault f => cases ho
    | operation o' => exact Option.some.inj ho ▸ hp

/-! ## Bindings -/

theorem gives_readBindingFaultReference (d : Direction) :
    Gives (readBindingFaultReference base d e) fun f => f.fault.isSome = true := by
  unfold readBindingFaultReference
  exact gives_bind (gives_any _) fun _ _ => gives_pure rfl

def BindingOperationPart.IsComplete : BindingOperationPart → Prop
  | .message _ => True
  | .fault f => f.fault.isSome = true

theorem givesPart_readBindingOperationPart :
    GivesPart (readBindingOperationPart base e) BindingOperationPart.IsComplete := by
  unfold readBindingOperationPart
  split
  · exact givesPart_some trivial
  · exact givesPart_some trivial
  · exact givesPart_map (gives_readBindingFaultReference base e .inward) fun _ h => h
  · exact givesPart_map (gives_readBindingFaultReference base e .outward) fun _ h => h
  · exact givesPart_none

theorem gives_readBindingOperation :
    Gives (readBindingOperation base e) BindingOperation.IsComplete := by
  unfold readBindingOperation
  refine gives_bind (gives_any _) fun operation _ => ?_
  refine gives_bind (gives_readChildren (givesPart_readBindingOperationPart base) e)
    fun parts hparts => ?_
  refine gives_pure ⟨rfl, forall_mem_filterMap hparts fun p f hf hp => ?_⟩
  cases p with
  | message m => cases hf
  | fault f' => exact Option.some.inj hf ▸ hp

theorem gives_readBindingFault :
    Gives (readBindingFault base e) fun f => f.fault.isSome = true := by
  unfold readBindingFault
  exact gives_bind (gives_any _) fun _ _ => gives_pure rfl

def BindingPart.IsComplete : BindingPart → Prop
  | .fault f => f.fault.isSome = true
  | .operation o => o.IsComplete

theorem givesPart_readBindingPart : GivesPart (readBindingPart base e) BindingPart.IsComplete := by
  unfold readBindingPart
  split
  · exact givesPart_map (gives_readBindingFault base e) fun _ h => h
  · exact givesPart_map (gives_readBindingOperation base e) fun _ h => h
  · exact givesPart_none

theorem gives_readBinding : Gives (readBinding base e) Binding.IsComplete := by
  unfold readBinding
  refine gives_bind (gives_requiredNCName base e "name") fun name hname => ?_
  refine gives_bind (gives_any _) fun interface _ => ?_
  refine gives_bind (gives_any _) fun type _ => ?_
  refine gives_bind (gives_readChildren (givesPart_readBindingPart base) e) fun parts hparts => ?_
  refine gives_pure ⟨hname, rfl, ?_, ?_⟩
  · refine forall_mem_filterMap hparts fun p f hf hp => ?_
    cases p with
    | fault f' => exact Option.some.inj hf ▸ hp
    | operation o => cases hf
  · refine forall_mem_filterMap hparts fun p o ho hp => ?_
    cases p with
    | fault f => cases ho
    | operation o' => exact Option.some.inj ho ▸ hp

/-! ## Services -/

theorem gives_readEndpoint : Gives (readEndpoint base e) Endpoint.IsComplete := by
  unfold readEndpoint
  refine gives_bind (gives_requiredNCName base e "name") fun name hname => ?_
  exact gives_bind (gives_any _) fun binding _ => gives_pure ⟨hname, rfl⟩

theorem givesPart_readServicePart : GivesPart (readServicePart base e) Endpoint.IsComplete := by
  unfold readServicePart
  split
  · exact givesPart_map (gives_readEndpoint base e) fun _ h => h
  · exact givesPart_none

theorem gives_readService : Gives (readService base e) Service.IsComplete := by
  unfold readService
  refine gives_bind (gives_requiredNCName base e "name") fun name hname => ?_
  refine gives_bind (gives_any _) fun interface _ => ?_
  refine gives_bind (gives_readChildren (givesPart_readServicePart base) e) fun ends hends => ?_
  exact gives_pure ⟨hname, rfl, hends⟩

/-! ## Descriptions -/

def DescriptionPart.IsComplete : DescriptionPart → Prop
  | .interface i => i.IsComplete
  | .binding b => b.IsComplete
  | .service s => s.IsComplete
  | _ => True

theorem givesPart_readDescriptionPart :
    GivesPart (readDescriptionPart base e) DescriptionPart.IsComplete := by
  unfold readDescriptionPart
  split
  · exact givesPart_some trivial
  · exact givesPart_some trivial
  · exact givesPart_some trivial
  · exact givesPart_map (gives_readInterface base e) fun _ h => h
  · exact givesPart_map (gives_readBinding base e) fun _ h => h
  · exact givesPart_map (gives_readService base e) fun _ h => h
  · exact givesPart_none

theorem gives_readDescriptionParts (es : List Xml.Element) (hasTypes : Bool) :
    Gives (readDescriptionParts base hasTypes es) fun ps => ∀ p ∈ ps, p.IsComplete := by
  induction es generalizing hasTypes with
  | nil => exact gives_pure (by simp)
  | cons e es ih =>
    unfold readDescriptionParts
    dsimp only
    split
    · exact gives_throw_bind _ _
    · refine gives_bind (givesPart_readDescriptionPart base e) fun part hpart => ?_
      refine gives_bind (ih _) fun parts hparts => ?_
      refine gives_pure (List.forall_mem_append.2 ⟨fun p hp => ?_, hparts⟩)
      exact hpart p (Option.mem_toList.1 hp)

theorem gives_ofElement : Gives (ofElement base e) Description.IsComplete := by
  unfold ofElement
  dsimp only
  split
  · exact gives_throw_bind _ _
  · refine gives_bind (gives_any _) fun target _ => ?_
    refine gives_bind (gives_readDescriptionParts base _ false) fun parts hparts => ?_
    refine gives_pure ⟨rfl, ?_, ?_, ?_⟩
    · refine forall_mem_filterMap hparts fun p i hi hp => ?_
      cases p with
      | interface i' => exact Option.some.inj hi ▸ hp
      | _ => cases hi
    · refine forall_mem_filterMap hparts fun p b hb hp => ?_
      cases p with
      | binding b' => exact Option.some.inj hb ▸ hp
      | _ => cases hb
    · refine forall_mem_filterMap hparts fun p s hs hp => ?_
      cases p with
      | service s' => exact Option.some.inj hs ▸ hp
      | _ => cases hs

end

/-- Schemas that are looked for add nothing that has to be there. -/
theorem gives_ofRoot (s : Sources) (base : Option Iri) (root : Xml.Element) :
    Gives (s.ofRoot base root) Description.IsComplete := by
  unfold Sources.ofRoot
  refine gives_bind (gives_ofElement _ root) fun w hw => gives_pure ?_
  exact ⟨hw.targetNamespace, hw.interfaces, hw.bindings, hw.services⟩

end Written

/-! ## Complete components -/

namespace Component

/-- The name of a component is the NCName of its element, in the target
namespace. -/
def IsNameOf (w : Written.Description) (written : Option String) (name : Option QName) : Prop :=
  ∃ ns l, w.targetNamespace = some ns ∧ written = some l ∧ isNCName l = true ∧
    name = some ⟨some ns, l⟩

/-- The fault that is referred to is there, and the direction. -/
structure FaultReference.IsComplete (f : FaultReference) : Prop where
  fault : f.fault.isSome = true
  direction : f.direction.isSome = true

structure Operation.IsCompleteFor (w : Written.Description) (wo : Written.Operation)
    (o : Operation) : Prop where
  name : IsNameOf w wo.name o.name
  pattern : o.pattern.isSome = true
  messages : ∀ m ∈ o.messages, m.direction.isSome = true
  faults : ∀ f ∈ o.faults, f.IsComplete

structure Interface.IsCompleteFor (w : Written.Description) (wi : Written.Interface)
    (i : Interface) : Prop where
  name : IsNameOf w wi.name i.name
  faults : List.Forall₂ (fun wf f => IsNameOf w wf.name f.name) wi.faults i.faults
  operations : List.Forall₂ (Operation.IsCompleteFor w) wi.operations i.operations

structure BindingOperation.IsComplete (o : BindingOperation) : Prop where
  operation : o.operation.isSome = true
  messages : ∀ m ∈ o.messages, m.direction.isSome = true
  faults : ∀ f ∈ o.faults, f.IsComplete

structure Binding.IsCompleteFor (w : Written.Description) (wb : Written.Binding)
    (b : Binding) : Prop where
  name : IsNameOf w wb.name b.name
  type : b.type.isSome = true
  faults : ∀ f ∈ b.faults, f.fault.isSome = true
  operations : ∀ o ∈ b.operations, o.IsComplete

/-- The name of an endpoint is an NCName and no more. -/
structure Endpoint.IsCompleteFor (we : Written.Endpoint) (e : Endpoint) : Prop where
  name : e.name = we.name ∧ Written.IsNamed e.name
  binding : e.binding.isSome = true

structure Service.IsCompleteFor (w : Written.Description) (ws : Written.Service)
    (s : Service) : Prop where
  name : IsNameOf w ws.name s.name
  interface : s.interface.isSome = true
  endpoints : List.Forall₂ Endpoint.IsCompleteFor ws.endpoints s.endpoints

/-- There is a component for each element, with its name, and each of them has
what it has to have. -/
structure Description.IsCompleteFor (w : Written.Description) (d : Description) : Prop where
  targetNamespace : ∃ ns, w.targetNamespace = some ns ∧ d.targetNamespace = some ns
  interfaces : List.Forall₂ (Interface.IsCompleteFor w) w.interfaces d.interfaces
  bindings : List.Forall₂ (Binding.IsCompleteFor w) w.bindings d.bindings
  services : List.Forall₂ (Service.IsCompleteFor w) w.services d.services

section

variable {w : Written.Description} {ns : String} (hns : w.targetNamespace = some ns)

include hns

theorem isNameOf_qualify {name : Option String} (h : Written.IsNamed name) :
    IsNameOf w name (name.map w.qualify) := by
  obtain ⟨l, rfl, hl⟩ := h
  refine ⟨ns, l, hns, rfl, hl, ?_⟩
  rw [Option.map_some, Written.Description.qualify, hns]

theorem isCompleteFor_deriveOperation {wo : Written.Operation} (h : wo.IsComplete)
    (styleDefault : List String) :
    (deriveOperation w styleDefault wo).IsCompleteFor w wo := by
  refine ⟨isNameOf_qualify hns h.name, rfl, ?_, ?_⟩
  · rintro m hm
    obtain ⟨wm, _, rfl⟩ := List.mem_map.1 hm
    rfl
  · rintro f hf
    obtain ⟨wf, hwf, rfl⟩ := List.mem_map.1 hf
    refine ⟨?_, rfl⟩
    rcases List.mem_append.1 hwf with hin | hout
    · exact (h.infaults wf hin).fault
    · exact (h.outfaults wf hout).fault

theorem isCompleteFor_deriveInterface {wi : Written.Interface} (h : wi.IsComplete) :
    (deriveInterface w wi).IsCompleteFor w wi where
  name := isNameOf_qualify hns h.name
  faults := List.forall₂_map_right_iff.2 (List.forall₂_same.2 fun wf hwf =>
    isNameOf_qualify hns (h.faults wf hwf))
  operations := List.forall₂_map_right_iff.2 (List.forall₂_same.2 fun wo hwo =>
    isCompleteFor_deriveOperation hns (h.operations wo hwo) wi.styleDefault)

omit hns in
theorem isComplete_deriveBindingOperation {wo : Written.BindingOperation} (h : wo.IsComplete)
    (d : Description) (i : Option Interface) : (deriveBindingOperation d i wo).IsComplete := by
  refine ⟨h.operation, ?_, ?_⟩
  · rintro m hm
    obtain ⟨wm, _, rfl⟩ := List.mem_map.1 hm
    rfl
  · rintro f hf
    obtain ⟨wf, hwf, rfl⟩ := List.mem_map.1 hf
    exact ⟨h.faults wf hwf, rfl⟩

theorem isCompleteFor_deriveBinding {wb : Written.Binding} (h : wb.IsComplete)
    (d : Description) : (deriveBinding w d wb).IsCompleteFor w wb where
  name := isNameOf_qualify hns h.name
  type := h.type
  faults := List.forall_mem_map.2 h.faults
  operations := List.forall_mem_map.2 fun wo hwo =>
    isComplete_deriveBindingOperation (h.operations wo hwo) d _

theorem isCompleteFor_deriveService {ws : Written.Service} (h : ws.IsComplete) :
    (deriveService w ws).IsCompleteFor w ws where
  name := isNameOf_qualify hns h.name
  interface := h.interface
  endpoints := List.forall₂_map_right_iff.2 (List.forall₂_same.2 fun we hwe =>
    ⟨⟨rfl, (h.endpoints we hwe).name⟩, (h.endpoints we hwe).binding⟩)

end

/-- What has to be there in a written description is there in its components. -/
theorem isCompleteFor_derive {w : Written.Description} (h : w.IsComplete) :
    (derive w).IsCompleteFor w := by
  obtain ⟨ns, hns⟩ := Option.isSome_iff_exists.1 h.targetNamespace
  refine ⟨⟨ns, hns, hns⟩, ?_, ?_, ?_⟩
  · exact List.forall₂_map_right_iff.2 (List.forall₂_same.2 fun wi hwi =>
      isCompleteFor_deriveInterface hns (h.interfaces wi hwi))
  · exact List.forall₂_map_right_iff.2 (List.forall₂_same.2 fun wb hwb =>
      isCompleteFor_deriveBinding hns (h.bindings wb hwb) _)
  · exact List.forall₂_map_right_iff.2 (List.forall₂_same.2 fun ws hws =>
      isCompleteFor_deriveService hns (h.services ws hws))

end Component

end Wsdl
