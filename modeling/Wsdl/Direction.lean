-- The direction of a message, and the message exchange patterns that the
-- language predefines.

namespace Wsdl

/-! ## Directions -/

/-- The direction of a message or fault, as the service sees it. -/
inductive Direction where
  | inward
  | outward
  deriving DecidableEq, Repr

namespace Direction

def text : Direction → String
  | inward => "in"
  | outward => "out"

def reversed : Direction → Direction
  | inward => outward
  | outward => inward

end Direction

/-! ## Patterns -/

/-- How the faults of a pattern relate to its messages. -/
inductive FaultRule where
  /-- A fault takes the place of the message of its direction. -/
  | replacesMessage
  /-- A fault answers a message of the other direction. -/
  | answersMessage
  /-- There are no faults. -/
  | noFaults
  deriving DecidableEq, Repr

/-- A predefined message exchange pattern. -/
structure Pattern where
  iri : String
  /-- The labels of the messages, with their directions, in order. -/
  placeholders : List (String × Direction)
  faultRule : FaultRule
  deriving DecidableEq, Repr

namespace Pattern

private def messageIn : String × Direction := ("In", .inward)

private def messageOut : String × Direction := ("Out", .outward)

/-- The IRI of the pattern with a short name. -/
def iriOf (name : String) : String := "http://www.w3.org/ns/wsdl/" ++ name

def all : List Pattern :=
  [⟨iriOf "in-only", [messageIn], .noFaults⟩,
   ⟨iriOf "robust-in-only", [messageIn], .answersMessage⟩,
   ⟨iriOf "in-out", [messageIn, messageOut], .replacesMessage⟩,
   ⟨iriOf "in-opt-out", [messageIn, messageOut], .answersMessage⟩,
   ⟨iriOf "out-only", [messageOut], .noFaults⟩,
   ⟨iriOf "robust-out-only", [messageOut], .answersMessage⟩,
   ⟨iriOf "out-in", [messageOut, messageIn], .replacesMessage⟩,
   ⟨iriOf "out-opt-in", [messageOut, messageIn], .answersMessage⟩]

/-- The pattern of an operation that names none. -/
def defaultIri : String := iriOf "in-out"

/-- The predefined pattern with an IRI. -/
def find? (iri : String) : Option Pattern := all.find? (·.iri == iri)

/-- Whether the label is one of the placeholders. -/
def hasLabel (p : Pattern) (label : String) : Bool := p.placeholders.any (·.1 == label)

/-- The label of a message that has none written: the only placeholder of
its direction. -/
def messageLabel (p : Pattern) (d : Direction) : Option String :=
  match p.placeholders.filter (·.2 == d) with
  | [(label, _)] => some label
  | _ => none

/-- The label of a fault that has none written. -/
def faultLabel (p : Pattern) (d : Direction) : Option String :=
  match p.faultRule with
  | .replacesMessage => p.messageLabel d
  | .answersMessage => p.messageLabel d.reversed
  | .noFaults => none

/-- A default label is one of the placeholders. -/
theorem hasLabel_of_messageLabel {p : Pattern} {d : Direction} {label : String}
    (h : p.messageLabel d = some label) : p.hasLabel label = true := by
  unfold messageLabel at h
  split at h
  · rename_i l e he
    obtain rfl := Option.some.inj h
    have hm : (l, e) ∈ p.placeholders.filter (·.2 == d) := by simp [he]
    exact List.any_eq_true.2 ⟨(l, e), (List.mem_filter.1 hm).1, by simp⟩
  · simp at h

end Pattern

end Wsdl
