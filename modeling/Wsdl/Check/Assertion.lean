-- Assertions of the table. An assertion runs on one node and does two
-- things in any order: it reports violations, and it takes the count of
-- the session. It may also give up.
import Wsdl.Check.Component
import Wsdl.Check.Target
import Wsdl.Iri.Parse
import Wsdl.Violation.Log

namespace Wsdl.Check

/-! ## Assertions -/

/-- What an assertion can do to a session. -/
inductive Action where
  | report (v : Violation)
  /-- Takes the count, which starts again at nothing. -/
  | take
  deriving DecidableEq, Repr

/-- What an assertion did, and the error with which it gave up, if it
did. -/
structure Outcome where
  actions : List Action
  failure : Option Error
  deriving DecidableEq, Repr

/-- An assertion. What it does depends on the target, on what names lead
to, and on the count of the session when it starts. -/
structure Assertion where
  id : String
  run : Resolver → Target → Summary → Outcome

namespace Action

def perform (s : Session) : Action → Session
  | report v => s.report v
  | take => s.take.2

end Action

namespace Outcome

/-- Only violations. -/
def ofViolations (vs : List Violation) : Outcome := ⟨vs.map .report, none⟩

/-- Only an error. -/
def refusal (e : Error) : Outcome := ⟨[], some e⟩

/-- The session after the outcome. -/
def perform (o : Outcome) (s : Session) : Session := o.actions.foldl Action.perform s

end Outcome

namespace Assertion

/-- The assertion of a rule, which looks at one kind of node. -/
def ofRule {α : Type} (r : Rule) (view : Target → Except Error α)
    (violations : Resolver → Component.Description → α → List Violation) : Assertion where
  id := r.id
  run resolver t _ :=
    match view t with
    | .ok x => .ofViolations (violations resolver t.description x)
    | .error e => .refusal e

end Assertion

/-! ## The built-in assertions -/

/-- A violation if the target namespace is there and fails the test. -/
def namespaceCheck (r : Rule) (holds : String → Bool) (w : Written.Description) :
    List Violation :=
  (w.targetNamespace.toList.filter (! holds ·)).map fun ns => r.violationAt w.place [ns]

def namespaceAssertion : Assertion :=
  .ofRule .namespaceIsAbsolute Target.asDescriptionElement fun _ _ w =>
    namespaceCheck .namespaceIsAbsolute Iri.isAbsoluteText w

def retrievalAssertion : Assertion :=
  .ofRule .namespaceIsRetrievable Target.asDescriptionElement fun resolver _ w =>
    namespaceCheck .namespaceIsRetrievable (fun ns => (resolver ns).isSome) w

def interfaceNameAssertion : Assertion :=
  .ofRule .interfaceNameIsUnique Target.asDescription fun _ _ d => interfaceNames d.interfaces

def interfaceCycleAssertion : Assertion :=
  .ofRule .interfaceIsAcyclic Target.asInterface fun _ d i => interfaceCycle d i

/-- The built-in assertions for a kind of node. -/
def builtIn : NodeKind → List Assertion
  | .descriptionElement => [namespaceAssertion, retrievalAssertion]
  | .description => [interfaceNameAssertion]
  | .interface => [interfaceCycleAssertion]
  | _ => []

/-- The ids of the built-in assertions. -/
def builtInIds : List String := (NodeKind.all.flatMap builtIn).map (·.id)

end Wsdl.Check
