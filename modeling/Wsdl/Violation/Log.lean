-- What was reported: the violations in order, summaries of them, and sessions,
-- in which both are kept.
import Wsdl.Violation.Basic

namespace Wsdl

/-! ## Summaries -/

/-- Counts of violations, and the ids that occurred, each once and in the
order in which they first did. -/
structure Summary where
  errors : Nat
  warnings : Nat
  ids : List String
  deriving DecidableEq, Repr

namespace Summary

def empty : Summary := ⟨0, 0, []⟩

instance : Inhabited Summary := ⟨empty⟩

/-- Adds an id unless it is there. -/
def addId (ids : List String) (id : String) : List String :=
  if ids.contains id then ids else ids ++ [id]

/-- Counts one violation. -/
def record (s : Summary) (id : String) : Severity → Summary
  | .error => ⟨s.errors + 1, s.warnings, addId s.ids id⟩
  | .warning => ⟨s.errors, s.warnings + 1, addId s.ids id⟩

/-- Both summaries in one, the first one's ids before the other's. -/
def merge (s t : Summary) : Summary :=
  ⟨s.errors + t.errors, s.warnings + t.warnings, t.ids.foldl addId s.ids⟩

/-- The summary of a list of violations. -/
def of (vs : List Violation) : Summary :=
  vs.foldl (fun s v => s.record v.id v.severity) empty

/-- A description is valid if there are no errors. -/
def isValid (s : Summary) : Bool := s.errors == 0

/-- Whether an assertion occurred. -/
def mentions (s : Summary) (id : String) : Bool := s.ids.contains id

end Summary

/-! ## Logs -/

/-- Violations in the order in which they were reported. -/
abbrev Log := List Violation

namespace Log

/-- The ids, repeats included. -/
def ids (l : Log) : List String := l.map (·.id)

/-- The violations of one assertion. -/
def withId (l : Log) (id : String) : Log := l.filter (·.id == id)

def countOf (l : Log) (id : String) : Nat := (l.withId id).length

def errorCount (l : Log) : Nat := l.countP (·.severity == .error)

def warningCount (l : Log) : Nat := l.countP (·.severity == .warning)

def hasErrors (l : Log) : Bool := 0 < l.errorCount

/-- Later reports without those that repeat an earlier one. Repeats among
the later ones are kept. -/
def append (earlier later : Log) : Log := earlier ++ later.filter (! earlier.contains ·)

/-- The log without the reports after the first `n` that repeat one of
those. -/
def dropRepeats (l : Log) (n : Nat) : Log := append (l.take n) (l.drop n)

end Log

/-! ## Sessions -/

/-- The log of a session and the summary since it was last taken. -/
structure Session where
  log : Log
  since : Summary
  deriving DecidableEq, Repr

namespace Session

/-- A session with a log that others have written to, and nothing counted. -/
def on (log : Log) : Session := ⟨log, .empty⟩

/-- Reports a violation: it is logged and counted. -/
def report (s : Session) (v : Violation) : Session :=
  ⟨s.log ++ [v], s.since.record v.id v.severity⟩

/-- Takes the count, which starts again at nothing. The log stays. -/
def take (s : Session) : Summary × Session := (s.since, ⟨s.log, .empty⟩)

end Session

end Wsdl
