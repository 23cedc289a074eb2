-- Inspections. An inspection reports what it finds to whatever takes reports,
-- and answers whether all is well. Several of them make one, in which each has
-- its turn whatever the others answer.
import Wsdl.Violation.Log

namespace Wsdl

/-! ## Reporters -/

/-- What takes reports. -/
class Reporter (σ : Type) where
  report : σ → Violation → σ

/-- A log keeps every report. -/
instance : Reporter Log where
  report l v := l ++ [v]

/-- A session counts what it passes on to its log. -/
instance : Reporter Session where
  report := Session.report

namespace Check

/-! ## Inspections -/

/-- An inspection, which can be made with any reporter. -/
structure Inspection where
  run : {σ : Type} → [Reporter σ] → StateM σ Bool

/-- Hands a violation to the reporter. -/
def tell {σ : Type} [Reporter σ] (v : Violation) : StateM σ Unit := modify (Reporter.report · v)

namespace Inspection

/-! ## Several inspections -/

/-- One inspection after the other. All is well if it is for each of them, and
one that fails is no reason to stop. -/
def all : List Inspection → Inspection
  | [] => ⟨return true⟩
  | i :: is => ⟨do
      let valid ← i.run
      let rest ← (all is).run
      return valid && rest⟩

/-- The inspection of each entry. -/
def each {α : Type} (xs : List α) (f : α → Inspection) : Inspection := all (xs.map f)

/-! ## Single inspections -/

/-- There is nothing to inspect. -/
def idle : Inspection := all []

/-- Whether a condition holds. -/
def expect (holds : Bool) (v : Violation) : Inspection where
  run := do
    if holds then
      return true
    tell v
    return false

/-- Whether a text passes, if it is there. -/
def expectText (text : Option String) (passes : String → Bool) (violation : String → Violation) :
    Inspection :=
  match text with
  | none => idle
  | some t => expect (passes t) (violation t)

/-- Whether nothing was found. -/
def expectNothing (found : List Violation) : Inspection where
  run := do
    found.forM tell
    return found.isEmpty

/-! ## By themselves -/

/-- What the inspection reports by itself. -/
def reports (i : Inspection) : Log := (i.run.run []).2

/-- What the inspection answers by itself. -/
def holds (i : Inspection) : Bool := (i.run.run ([] : Log)).1

/-- Makes the inspection, adds to a log what it reports, and gives the summary
of that. -/
def summarize (i : Inspection) : StateM Log Summary := do
  let (_, session) := i.run.run (Session.on (← get))
  set session.log
  return session.since

end Inspection

end Check

end Wsdl
