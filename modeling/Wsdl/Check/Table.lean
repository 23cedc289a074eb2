-- The table of assertions: the built-in ones and those that are registered
-- besides, for each kind of node. A walk runs every assertion on every node
-- of its kind and ends early when one gives up. The whole validation walks the
-- table behind the assertions on the written description and those on its components,
-- and leaves out what the table reports again.
import Wsdl.Check.Assertion
import Wsdl.Check.Document

namespace Wsdl.Check

/-! ## Registries -/

/-- An assertion and the kind of node that it is for. -/
structure Registration where
  assertion : Assertion
  kind : NodeKind

/-- Registered assertions, in order. -/
abbrev Registry := List Registration

namespace Registry

/-- The assertions that are registered for a kind. -/
def assertionsFor (r : Registry) (k : NodeKind) : List Assertion :=
  (r.filter (·.kind == k)).map (·.assertion)

/-- Why an id is refused, where some ids are registered for the kind
already. -/
def refuse (k : NodeKind) (taken : List String) (id : String) : Option RegistryFault :=
  if id.isEmpty then some (.emptyId k)
  else if builtInIds.contains id then some (.builtInId id)
  else if taken.contains id then some (.repeatedId id k)
  else none

/-- The first fault among the ids that are registered for a kind. -/
def faultAmong (k : NodeKind) (taken : List String) : List String → Option RegistryFault
  | [] => none
  | id :: ids => (refuse k taken id).or (faultAmong k (taken ++ [id]) ids)

/-- The first fault of a registry, kind by kind. -/
def fault? (r : Registry) : Option RegistryFault :=
  NodeKind.all.findSome? fun k => faultAmong k [] ((r.assertionsFor k).map (·.id))

end Registry

/-! ## Tables -/

/-- A registry without faults. -/
structure Table where
  registry : Registry
  accepted : registry.fault? = none

namespace Table

/-- The table with the built-in assertions and those of a registry. -/
def ofRegistry (r : Registry) : Except RegistryFault Table :=
  match h : r.fault? with
  | none => .ok ⟨r, h⟩
  | some f => .error f

/-- The assertions for a kind of node, the built-in ones first. -/
def assertionsFor (t : Table) (k : NodeKind) : List Assertion :=
  builtIn k ++ t.registry.assertionsFor k

/-- The ids of the assertions for a kind of node. -/
def ids (t : Table) (k : NodeKind) : List String := (t.assertionsFor k).map (·.id)

/-! ## Running -/

/-- An assertion that was run, what it was run on, and what it did. -/
structure Invocation where
  assertion : Assertion
  target : Target
  outcome : Outcome

/-- How far a walk has come. -/
structure Progress where
  session : Session
  /-- What was run so far, in order. -/
  invocations : List Invocation

/-- A part of a walk. It ends early if an assertion gives up, and what was
done until then stays. -/
abbrev Walk := ExceptT Error (StateM Progress)

/-- Runs an assertion on a target. -/
def invoke (resolver : Resolver) (target : Target) (a : Assertion) : Walk Unit := do
  let p ← get
  let o := a.run resolver target p.session.since
  set (⟨o.perform p.session, p.invocations ++ [⟨a, target, o⟩]⟩ : Progress)
  match o.failure with
  | some e => throw e
  | none => return ()

/-- Runs every assertion for the node's kind on it. -/
def visit (t : Table) (resolver : Resolver) (d : Component.Description) (n : Node) : Walk Unit :=
  (t.assertionsFor n.kind).forM (invoke resolver ⟨d, n⟩)

/-- Visits the description element, the description, and each of its
components with what stands in it. -/
def walk (t : Table) (resolver : Resolver) (w : Written.Description)
    (d : Component.Description) : Walk Unit := do
  t.visit resolver d (.descriptionElement w)
  t.visit resolver d (.description d)
  d.interfaces.forM fun i => t.visit resolver d (.interface i)
  d.bindings.forM fun b => do
    t.visit resolver d (.binding b)
    b.faults.forM fun f => t.visit resolver d (.bindingFault b f)
    b.operations.forM fun o => do
      t.visit resolver d (.bindingOperation b o)
      o.messages.forM fun m => t.visit resolver d (.bindingMessage o m)
      o.faults.forM fun f => t.visit resolver d (.bindingFaultReference o f)
  d.services.forM fun s => do
    t.visit resolver d (.service s)
    s.endpoints.forM fun e => t.visit resolver d (.endpoint s e)

/-- The walk of a session whose count was taken: how it ended, and how far it
came. -/
def walked (t : Table) (resolver : Resolver) (w : Written.Description)
    (d : Component.Description) (s : Session) : Except Error Unit × Progress :=
  (t.walk resolver w d).run.run ⟨s.take.2, []⟩

/-- Runs the table on a description: the session afterwards, and either the
count of the run or the error with which an assertion gave up. The count of
a run that ends well is taken. -/
def run (t : Table) (resolver : Resolver) (w : Written.Description)
    (d : Component.Description) (s : Session) : Session × Except Error Summary :=
  match t.walked resolver w d s with
  | (.error e, p) => (p.session, .error e)
  | (.ok (), p) => (p.session.take.2, .ok p.session.since)

/-- The assertions that a run invokes, in order. -/
def invocations (t : Table) (resolver : Resolver) (w : Written.Description)
    (d : Component.Description) (s : Session) : List Invocation :=
  (t.walked resolver w d s).2.invocations

end Table

/-! ## The whole validation -/

/-- Every violation of a description. The table may hold registered
assertions, which may give up. -/
def validate (registry : Registry) (resolver : Resolver) (w : Written.Description)
    (d : Component.Description) : Except Error Log := do
  let table ← (Table.ofRegistry registry).mapError .registry
  let earlier := document w ++ component d
  let (session, result) := table.run resolver w d (.on earlier)
  let _ ← result
  return session.log.dropRepeats earlier.length

end Wsdl.Check
