-- A violation: which assertion does not hold, where, and how grave that
-- is.
import Wsdl.Message
import Wsdl.Rule

namespace Wsdl

/-! ## Severity -/

/-- How grave a violation is. Only an error makes a description invalid. -/
inductive Severity where
  | warning
  | error
  deriving DecidableEq, Repr

def Severity.text : Severity → String
  | warning => "warning"
  | error => "error"

/-! ## Places -/

/-- Where a violation was found, as far as it is known. -/
structure Locator where
  /-- The base IRI of the document. -/
  base : Option String
  line : Option Nat
  column : Option Nat
  /-- The start tag, in short. -/
  element : Option String
  deriving DecidableEq, Repr

namespace Locator

/-- The locator that knows nothing. -/
def nowhere : Locator := ⟨none, none, none, none⟩

instance : Inhabited Locator := ⟨nowhere⟩

/-- Line and column, if both are known. -/
def position (l : Locator) : Option String :=
  match l.line, l.column with
  | some n, some m => some (toString n ++ ":" ++ toString m)
  | _, _ => none

/-- What is known, with a space between. -/
def text (l : Locator) : String :=
  " ".intercalate
    (l.base.toList ++ l.position.toList ++ (l.element.map fun e => "<" ++ e ++ ">").toList)

end Locator

/-! ## Violations -/

/-- One report that an assertion does not hold. -/
structure Violation where
  place : Locator
  id : String
  args : List String
  severity : Severity
  deriving DecidableEq, Repr

namespace Violation

def message (v : Violation) : String := Message.text v.id v.args

/-- The violation as one line of a report. -/
def text (v : Violation) : String :=
  let head := "[" ++ v.severity.text ++ "] " ++ v.id ++ ": " ++ v.message
  if v.place.text.isEmpty then head else head ++ " (" ++ v.place.text ++ ")"

end Violation

namespace Rule

/-- The severity of a rule's violations. -/
def severity : Rule → Severity
  | namespaceIsRetrievable => .warning
  | _ => .error

/-- A violation of the rule at a place. -/
def violationAt (r : Rule) (place : Locator) (args : List String) : Violation :=
  ⟨place, r.id, args, r.severity⟩

/-- A violation of the rule that is not tied to a place. -/
def violation (r : Rule) (args : List String) : Violation := r.violationAt .nowhere args

end Rule

end Wsdl
