-- The command line as a function: from arguments and files to what is
-- printed and how the program ends. A program that has to fetch the files asks which
-- ones are read, again with what it has got, until nothing is missing.
import Wsdl.Catalog.Files
import Wsdl.Command.Arguments
import Wsdl.Command.Report

namespace Wsdl.Command

/-! ## Runs -/

/-- What a run prints, and the code with which it ends. -/
structure Result where
  code : Nat
  output : String
  /-- The error that ended the run. -/
  error : Option String
  deriving DecidableEq, Repr

/-- Why a run has nothing to report. -/
inductive Failure where
  | error (e : Error)
  /-- The catalogs lead in a circle, which is followed until the stack is used
  up. -/
  | exhausted
  deriving DecidableEq, Repr

/-- The catalog that a validation asks for. -/
def catalogOf (fs : FileSystem) (v : Validation) : Except Failure (Option Catalog) :=
  match v.catalog with
  | none => .ok none
  | some p =>
    match Catalog.ofFile fs (.ofText p) with
    | some found => (found.mapError .error).map some
    | none => .error .exhausted

/-- The reader that a validation asks for. -/
def readerOf (fs : FileSystem) (v : Validation) : Except Failure Reader := do
  let catalog ← catalogOf fs v
  return ⟨⟨fs, .standard, false, catalog⟩, !v.skipsValidation, []⟩

/-- Reads the file of a validation. -/
def readingOf (fs : FileSystem) (v : Validation) : Except Failure Reading := do
  let r ← readerOf fs v
  (r.readAt (.path (.ofText v.file))).mapError .error

/-- How the program ends when the description could be read. -/
def codeOf (r : Reading) : Nat := if r.isValid then 0 else 1

/-- The code of a program that the operating system had to end. -/
def abortedCode : Nat := 134

/-- Runs a validation. -/
def runValidation (fs : FileSystem) (v : Validation) : Result :=
  match readingOf fs v with
  | .ok r => ⟨codeOf r, report v.json v.file r, none⟩
  | .error (.error e) => ⟨2, "", some ("Error: " ++ e.message ++ "\n")⟩
  | .error .exhausted => ⟨abortedCode, "", none⟩

def versionText : String := programName ++ " " ++ programVersion ++ "\n"

def helpText : String :=
  joinLines
    ["Usage: " ++ programName ++ " [-v] validate FILE [-j] [-c CATALOG] [--no-validation]",
     "",
     "Reads a WSDL 2.0 description and reports the assertions that it violates.",
     "",
     "  -j, --json             print the report as JSON",
     "  -c, --catalog CATALOG  look schemas up in an XML catalog",
     "      --no-validation    only read the description",
     "  -v, --verbose          accepted, without effect",
     "  -V, --version          print the version"]

/-- Runs the program. -/
def run (fs : FileSystem) (args : List String) : Result :=
  match readArguments args with
  | .validate v => runValidation fs v
  | .version => ⟨0, versionText, none⟩
  | .help => ⟨0, helpText, none⟩
  | .refused => ⟨2, "", none⟩

/-! ## The files that are read -/

/-- The paths of the schemas that the file of a validation imports. -/
def schemaPaths (fs : FileSystem) (v : Validation) : List FilePath :=
  let location : Location := .path (.ofText v.file)
  let found : Option (List FilePath) := do
    let r ← (readerOf fs v).toOption
    let base := location.base? fs
    let text ← (location.load fs r.sources.limits r.sources.allowRemote).toOption
    let w ← (r.written base text).toOption
    return r.sources.importedPaths base w
  found.getD []

/-- Every path that a validation reads, as far as the files tell. -/
def pathsRead (fs : FileSystem) (v : Validation) : List FilePath :=
  v.catalog.toList.flatMap (fun p => Catalog.pathsFrom fs (.ofText p))
    ++ .ofText v.file :: schemaPaths fs v

end Wsdl.Command
