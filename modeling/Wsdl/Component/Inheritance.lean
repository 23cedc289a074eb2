-- What interfaces inherit. An interface has its own operations and faults
-- and those of every interface that it extends, directly or through
-- others. Extension may run in circles.
import Wsdl.Component.Basic

namespace Wsdl.Component

namespace Description

/-! ## Extended interfaces -/

/-- The interfaces that are not among the found ones. -/
def unfound (d : Description) (found : List Interface) : List Interface :=
  d.interfaces.filter (! found.contains ·)

theorem length_unfound_lt {d : Description} {found : List Interface} {i : Interface}
    (hi : i ∈ d.interfaces) (hf : ¬ i ∈ found) :
    (d.unfound (found ++ [i])).length < (d.unfound found).length := by
  have hsub : d.unfound (found ++ [i]) = (d.unfound found).filter (! · == i) := by
    simp only [unfound, List.filter_filter]
    refine List.filter_congr fun x _ => ?_
    by_cases hx : x = i <;> by_cases hm : x ∈ found <;> simp [hx, hm]
  rw [hsub]
  refine List.length_filter_lt_length_iff_exists.2 ⟨i, ?_, by simp⟩
  simp [unfound, hi, hf]

/-- Adds to the found interfaces those that the names lead to, directly or
through others. What an interface extends is visited before the names that
wait. -/
def closureFrom (d : Description) (found : List Interface) : List QName → List Interface
  | [] => found
  | q :: waiting =>
    match _h : d.interface? q with
    | none => closureFrom d found waiting
    | some i =>
      if i ∈ found then closureFrom d found waiting
      else closureFrom d (found ++ [i]) (i.extended.reverse ++ waiting)
  termination_by waiting => ((d.unfound found).length, waiting.length)
  decreasing_by
    · exact Prod.Lex.right _ (by simp)
    · exact Prod.Lex.right _ (by simp)
    · exact Prod.Lex.left _ _ (length_unfound_lt (mem_of_interface? _h) (by assumption))

section

variable {d : Description} {found : List Interface} {q : QName} {waiting : List QName}
  {i : Interface}

theorem closureFrom_cons_of_none (hq : d.interface? q = none) :
    d.closureFrom found (q :: waiting) = d.closureFrom found waiting := by
  rw [closureFrom]
  split
  · rfl
  · simp_all

theorem closureFrom_cons_of_mem (hq : d.interface? q = some i) (hi : i ∈ found) :
    d.closureFrom found (q :: waiting) = d.closureFrom found waiting := by
  rw [closureFrom]
  split <;> simp_all

theorem closureFrom_cons_of_not_mem (hq : d.interface? q = some i) (hi : i ∉ found) :
    d.closureFrom found (q :: waiting)
      = d.closureFrom (found ++ [i]) (i.extended.reverse ++ waiting) := by
  rw [closureFrom]
  split <;> simp_all

end

/-- Every interface that an interface extends, directly or through others,
each once. The names in an extends list are visited from the last one. -/
def closure (d : Description) (i : Interface) : List Interface :=
  d.closureFrom [] i.extended.reverse

/-- The interfaces that an interface extends directly. -/
def parents (d : Description) (i : Interface) : List Interface := i.extended.filterMap d.interface?

/-- Whether the names lead to the interface, without going again through
the interfaces that were seen. -/
def leadsTo (d : Description) (i : Interface) (seen : List Interface) : List QName → Bool
  | [] => false
  | q :: waiting =>
    match _h : d.interface? q with
    | none => leadsTo d i seen waiting
    | some j =>
      if j = i then true
      else if j ∈ seen then leadsTo d i seen waiting
      else leadsTo d i (seen ++ [j]) (j.extended.reverse ++ waiting)
  termination_by waiting => ((d.unfound seen).length, waiting.length)
  decreasing_by
    · exact Prod.Lex.right _ (by simp)
    · exact Prod.Lex.right _ (by simp)
    · exact Prod.Lex.left _ _ (length_unfound_lt (mem_of_interface? _h) (by assumption))

/-- Whether an interface is among those that it extends. The search ends
when it is found. -/
def extendsItself (d : Description) (i : Interface) : Bool :=
  d.leadsTo i [] i.extended.reverse

/-! ## Inherited operations and faults -/

/-- The interface and the others that it has operations and faults from. -/
def owners (d : Description) (i : Interface) : List Interface :=
  i :: (d.closure i).filter (! · == i)

/-- The operations of an interface, its own ones first. -/
def operationsOf (d : Description) (i : Interface) : List Operation :=
  (d.owners i).flatMap (·.operations)

/-- The faults of an interface, its own ones first. -/
def faultsOf (d : Description) (i : Interface) : List InterfaceFault :=
  (d.owners i).flatMap (·.faults)

/-- The place of the first operation with a name among those of the
interface. -/
def operationIndex? (d : Description) (i : Interface) (q : QName) : Option Nat :=
  (d.operationsOf i).findIdx? (·.name == some q)

/-- The first operation of the interface with a name. -/
def operation? (d : Description) (i : Interface) (q : QName) : Option Operation :=
  (d.operationsOf i).find? (·.name == some q)

/-- The place of the first fault with a name among those of the
interface. -/
def faultIndex? (d : Description) (i : Interface) (q : QName) : Option Nat :=
  (d.faultsOf i).findIdx? (·.name == some q)

/-- The first fault of the interface with a name. -/
def fault? (d : Description) (i : Interface) (q : QName) : Option InterfaceFault :=
  (d.faultsOf i).find? (·.name == some q)

end Description

/-! ## What bindings and services refer to -/

/-- The interface that is bound. -/
def Binding.interfaceIn (b : Binding) (d : Description) : Option Interface :=
  b.interface.bind d.interface?

/-- The place of the bound operation among those of the interface. -/
def BindingOperation.indexIn (o : BindingOperation) (b : Binding) (d : Description) : Option Nat :=
  o.operation.bind fun q => (b.interfaceIn d).bind fun i => d.operationIndex? i q

/-- The operation that is bound. -/
def BindingOperation.operationIn (o : BindingOperation) (b : Binding) (d : Description) :
    Option Operation :=
  o.operation.bind fun q => (b.interfaceIn d).bind fun i => d.operation? i q

/-- The place of the bound fault among those of the interface. -/
def BindingFault.indexIn (f : BindingFault) (b : Binding) (d : Description) : Option Nat :=
  f.fault.bind fun q => (b.interfaceIn d).bind fun i => d.faultIndex? i q

/-- The fault that is bound. -/
def BindingFault.faultIn (f : BindingFault) (b : Binding) (d : Description) :
    Option InterfaceFault :=
  f.fault.bind fun q => (b.interfaceIn d).bind fun i => d.fault? i q

/-- The interface that is implemented. -/
def Service.interfaceIn (s : Service) (d : Description) : Option Interface :=
  s.interface.bind d.interface?

/-- The binding of an endpoint. -/
def Endpoint.bindingIn (e : Endpoint) (d : Description) : Option Binding :=
  e.binding.bind d.binding?

end Wsdl.Component
