-- Reading a description from the elements of its document. Elements and
-- attributes in other namespaces than that of the language are passed over.
-- Imported schemas are left unread.
import Wsdl.Error
import Wsdl.Written.Basic

namespace Wsdl.Written

open Xml (Element)

/-! ## Attributes -/

/-- The place of an element in a document with the given base. -/
def placeOf (base : Option String) (e : Element) : Locator :=
  ⟨base, some e.position.line, some e.position.column, some e.describe⟩

/-- A problem with an element. -/
def problem (base : Option String) (e : Element) (p : ReadProblem) : Error :=
  .document p (some e.describe) (some (placeOf base e).text)

/-- The value of an attribute that has to be there. -/
def required (base : Option String) (e : Element) (name : String) : Except Error String :=
  match e.attribute? name with
  | some v => .ok v
  | none => .error (problem base e (.missingAttribute name))

/-- The value of an attribute that has to be an NCName. -/
def requiredNCName (base : Option String) (e : Element) (name : String) : Except Error String := do
  let v ← required base e name
  if isNCName v then return v else throw (problem base e (.notNCName v))

/-- The expanded name that a text stands for where the element is. -/
def expand (e : Element) (written : String) : Except Error QName :=
  (e.scope.resolve written).mapError .scope

/-- The expanded name in an attribute that has to be there. -/
def requiredQName (base : Option String) (e : Element) (name : String) : Except Error QName := do
  expand e (← required base e name)

/-- The words of an attribute. -/
def wordsOf (e : Element) (name : String) : List String :=
  match e.attribute? name with
  | some v => Text.words v
  | none => []

/-- The content that the element attribute says, if it is there. -/
def contentOf (e : Element) : Except Error (Option Content) :=
  match e.attribute? "element" with
  | none => .ok none
  | some v =>
    match Content.ofToken? v with
    | some c => .ok (some c)
    | none => (expand e v).map fun q => some (.element q)

/-! ## Children -/

/-- What the children of an element say, in order. Children outside of the
language's namespace and those that say nothing are left out. -/
def readChildren {α : Type} (f : Element → Except Error (Option α)) (e : Element) :
    Except Error (List α) :=
  ((e.childrenIn wsdlNamespace).mapM f).map fun parts => parts.filterMap id

/-! ## Interfaces -/

def readMessage (base : Option String) (d : Direction) (e : Element) : Except Error Message := do
  return ⟨d, e.attribute? "messageLabel", ← contentOf e, placeOf base e⟩

def readFaultReference (base : Option String) (d : Direction) (e : Element) :
    Except Error FaultReference := do
  return ⟨d, some (← requiredQName base e "ref"), e.attribute? "messageLabel", placeOf base e⟩

/-- A part of an interface operation. -/
inductive OperationPart where
  | input (m : Message)
  | output (m : Message)
  | infault (f : FaultReference)
  | outfault (f : FaultReference)

def readOperationPart (base : Option String) (e : Element) :
    Except Error (Option OperationPart) :=
  match e.localName with
  | "input" => (readMessage base .inward e).map fun m => some (.input m)
  | "output" => (readMessage base .outward e).map fun m => some (.output m)
  | "infault" => (readFaultReference base .inward e).map fun f => some (.infault f)
  | "outfault" => (readFaultReference base .outward e).map fun f => some (.outfault f)
  | _ => .ok none

def readOperation (base : Option String) (e : Element) : Except Error Operation := do
  let name ← requiredNCName base e "name"
  let parts ← readChildren (readOperationPart base) e
  return {
    name := some name
    pattern := e.attribute? "pattern"
    style := wordsOf e "style"
    inputs := parts.filterMap fun | .input m => some m | _ => none
    outputs := parts.filterMap fun | .output m => some m | _ => none
    infaults := parts.filterMap fun | .infault f => some f | _ => none
    outfaults := parts.filterMap fun | .outfault f => some f | _ => none
    place := placeOf base e }

def readInterfaceFault (base : Option String) (e : Element) : Except Error InterfaceFault := do
  let name ← requiredNCName base e "name"
  return ⟨some name, ← contentOf e, placeOf base e⟩

/-- A part of an interface. -/
inductive InterfacePart where
  | fault (f : InterfaceFault)
  | operation (o : Operation)

def readInterfacePart (base : Option String) (e : Element) :
    Except Error (Option InterfacePart) :=
  match e.localName with
  | "fault" => (readInterfaceFault base e).map fun f => some (.fault f)
  | "operation" => (readOperation base e).map fun o => some (.operation o)
  | _ => .ok none

def readInterface (base : Option String) (e : Element) : Except Error Interface := do
  let name ← requiredNCName base e "name"
  let extended ← (wordsOf e "extends").mapM (expand e)
  let parts ← readChildren (readInterfacePart base) e
  return {
    name := some name
    extended := extended
    styleDefault := wordsOf e "styleDefault"
    faults := parts.filterMap fun | .fault f => some f | _ => none
    operations := parts.filterMap fun | .operation o => some o | _ => none
    place := placeOf base e }

/-! ## Bindings -/

def readBindingMessage (base : Option String) (d : Direction) (e : Element) : BindingMessage :=
  ⟨d, e.attribute? "messageLabel", placeOf base e⟩

def readBindingFaultReference (base : Option String) (d : Direction) (e : Element) :
    Except Error BindingFaultReference := do
  return ⟨d, some (← requiredQName base e "ref"), e.attribute? "messageLabel", placeOf base e⟩

/-- A part of a binding operation. -/
inductive BindingOperationPart where
  | message (m : BindingMessage)
  | fault (f : BindingFaultReference)

def readBindingOperationPart (base : Option String) (e : Element) :
    Except Error (Option BindingOperationPart) :=
  match e.localName with
  | "input" => .ok (some (.message (readBindingMessage base .inward e)))
  | "output" => .ok (some (.message (readBindingMessage base .outward e)))
  | "infault" => (readBindingFaultReference base .inward e).map fun f => some (.fault f)
  | "outfault" => (readBindingFaultReference base .outward e).map fun f => some (.fault f)
  | _ => .ok none

def readBindingOperation (base : Option String) (e : Element) : Except Error BindingOperation := do
  let operation ← requiredQName base e "ref"
  let parts ← readChildren (readBindingOperationPart base) e
  return {
    operation := some operation
    messages := parts.filterMap fun | .message m => some m | _ => none
    faults := parts.filterMap fun | .fault f => some f | _ => none
    place := placeOf base e }

def readBindingFault (base : Option String) (e : Element) : Except Error BindingFault := do
  return ⟨some (← requiredQName base e "ref"), placeOf base e⟩

/-- A part of a binding. -/
inductive BindingPart where
  | fault (f : BindingFault)
  | operation (o : BindingOperation)

def readBindingPart (base : Option String) (e : Element) : Except Error (Option BindingPart) :=
  match e.localName with
  | "fault" => (readBindingFault base e).map fun f => some (.fault f)
  | "operation" => (readBindingOperation base e).map fun o => some (.operation o)
  | _ => .ok none

def readBinding (base : Option String) (e : Element) : Except Error Binding := do
  let name ← requiredNCName base e "name"
  let interface ← (e.nameAttribute? "interface").mapError .scope
  let type ← required base e "type"
  let parts ← readChildren (readBindingPart base) e
  return {
    name := some name
    interface := interface
    type := some type
    faults := parts.filterMap fun | .fault f => some f | _ => none
    operations := parts.filterMap fun | .operation o => some o | _ => none
    place := placeOf base e }

/-! ## Services -/

def readEndpoint (base : Option String) (e : Element) : Except Error Endpoint := do
  let name ← requiredNCName base e "name"
  let binding ← requiredQName base e "binding"
  return ⟨some name, some binding, e.attribute? "address", placeOf base e⟩

def readServicePart (base : Option String) (e : Element) : Except Error (Option Endpoint) :=
  if e.localName = "endpoint" then (readEndpoint base e).map some else .ok none

def readService (base : Option String) (e : Element) : Except Error Service := do
  let name ← requiredNCName base e "name"
  let interface ← requiredQName base e "interface"
  let endpoints ← readChildren (readServicePart base) e
  return ⟨some name, some interface, endpoints, placeOf base e⟩

/-! ## Types -/

/-- The schema that an element imports or is, if it does either. -/
def readSchema (base : Option String) (e : Element) : Option Schema :=
  if e.isNamed schemaNamespace "import" then
    some (.imported
      ⟨e.attribute? "namespace", e.attribute? "schemaLocation", none, placeOf base e⟩)
  else if e.isNamed schemaNamespace "schema" then
    some (.inline ⟨e.attribute? "id", .ofElement e, placeOf base e⟩)
  else none

def readTypes (base : Option String) (e : Element) : Types :=
  ⟨e.children.filterMap (readSchema base), placeOf base e⟩

/-! ## Descriptions -/

/-- A part of a description. -/
inductive DescriptionPart where
  | imported (i : Import)
  | included (i : Include)
  | types (t : Types)
  | interface (i : Interface)
  | binding (b : Binding)
  | service (s : Service)

def readDescriptionPart (base : Option String) (e : Element) :
    Except Error (Option DescriptionPart) :=
  match e.localName with
  | "import" =>
    .ok (some (.imported ⟨e.attribute? "namespace", e.attribute? "location", placeOf base e⟩))
  | "include" => .ok (some (.included ⟨e.attribute? "location", placeOf base e⟩))
  | "types" => .ok (some (.types (readTypes base e)))
  | "interface" => (readInterface base e).map fun i => some (.interface i)
  | "binding" => (readBinding base e).map fun b => some (.binding b)
  | "service" => (readService base e).map fun s => some (.service s)
  | _ => .ok none

/-- What the children of a description say, in order. A second types
element is refused. -/
def readDescriptionParts (base : Option String) (hasTypes : Bool) :
    List Element → Except Error (List DescriptionPart)
  | [] => .ok []
  | e :: es => do
    let isTypes := e.localName == "types"
    if hasTypes && isTypes then throw (problem base e .secondTypes)
    let part ← readDescriptionPart base e
    let parts ← readDescriptionParts base (hasTypes || isTypes) es
    return part.toList ++ parts

/-- The description whose root element this is. -/
def ofElement (base : Option String) (root : Element) : Except Error Description := do
  if !root.isNamed wsdlNamespace "description" then
    throw (problem base root (.notDescription root.name))
  let target ← required base root "targetNamespace"
  let parts ← readDescriptionParts base false (root.childrenIn wsdlNamespace)
  return {
    base := base
    targetNamespace := some target
    imports := parts.filterMap fun | .imported i => some i | _ => none
    includes := parts.filterMap fun | .included i => some i | _ => none
    types := parts.findSome? fun | .types t => some t | _ => none
    interfaces := parts.filterMap fun | .interface i => some i | _ => none
    bindings := parts.filterMap fun | .binding b => some b | _ => none
    services := parts.filterMap fun | .service s => some s | _ => none
    place := placeOf base root }

end Wsdl.Written
