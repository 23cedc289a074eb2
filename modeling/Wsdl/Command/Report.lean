-- What a validation prints: the description in a few lines with its
-- violations, or the same as JSON.
import Wsdl.Reader.Basic
import Wsdl.Text.Json

namespace Wsdl.Command

open Text (Json)

def programName : String := "woden"

def programVersion : String := "0.1.0"

/-! ## As text -/

/-- The lines about the description itself. -/
def headLines (file : String) (d : Component.Description) : List String :=
  [programName ++ " v" ++ programVersion,
   "",
   "Description: " ++ file,
   "  Target Namespace: " ++ d.targetNamespace.getD "(none)",
   "  Interfaces: " ++ toString d.interfaces.length,
   "  Bindings: " ++ toString d.bindings.length,
   "  Services: " ++ toString d.services.length]

/-- The last line, which says whether the description is valid. -/
def verdictLine (s : Summary) : String :=
  if s.isValid then "✓ Description is valid (" ++ toString s.warnings ++ " warnings)"
  else
    "✗ Description is invalid (" ++ toString s.errors ++ " errors, " ++ toString s.warnings
      ++ " warnings)"

/-- The lines about the violations. -/
def violationLines (log : Log) : List String :=
  if log.isEmpty then [] else "" :: log.map fun v => "  " ++ v.text

def textLines (file : String) (r : Reading) : List String :=
  headLines file r.description ++
    match r.summary with
    | some s => violationLines r.diagnostics ++ ["", verdictLine s]
    | none => ["", "Validation skipped"]

/-- The lines, each with its end. -/
def joinLines (lines : List String) : String := String.join (lines.map (· ++ "\n"))

/-! ## As JSON -/

/-- A place, as far as it is known. -/
def locatorJson (l : Locator) : Json :=
  .object
    ((l.column.toList.map fun n => ("column", .number n))
      ++ (l.base.toList.map fun s => ("document_base_uri", .text s))
      ++ (l.element.toList.map fun s => ("element", .text s))
      ++ (l.line.toList.map fun n => ("line", .number n)))

def violationJson (v : Violation) : Json :=
  .object
    [("args", .list (v.args.map .text)),
     ("id", .text v.id),
     ("location", locatorJson v.place),
     ("message", .text v.message),
     ("severity", .text v.severity.text)]

def summaryJson (s : Summary) : Json :=
  .object
    [("assertion_ids", .list (s.ids.map .text)),
     ("errors", .number s.errors),
     ("warnings", .number s.warnings)]

/-- The report as a value. The keys of its objects are in order. -/
def reportJson (file : String) (r : Reading) : Json :=
  .object
    [("diagnostics", .list (r.diagnostics.map violationJson)),
     ("file", .text file),
     ("report", .ofOption summaryJson r.summary),
     ("targetNamespace", .ofOption .text r.description.targetNamespace),
     ("valid", .bool r.isValid)]

/-- What is printed about a description that was read. -/
def report (json : Bool) (file : String) (r : Reading) : String :=
  if json then (reportJson file r).toText ++ "\n" else joinLines (textLines file r)

end Wsdl.Command
