-- The program: fetches the files that a validation reads, runs it, and
-- prints what comes of it.
import Wsdl.Command.Run

namespace Wsdl.Main

/-- Files that were fetched, each with its content or why there is none. -/
abbrev Fetched := List (FilePath × Except FileFault (List UInt8))

/-- The fetched files, as seen from the working directory. -/
def Fetched.system (known : Fetched) (directory : FilePath) : FileSystem :=
  ⟨directory, fun p => (known.lookup p).getD (.error .notFound)⟩

/-- The fault with a number, which may be given negated. -/
def faultNumbered (n : UInt32) (words : String) : FileFault :=
  .ofNumber words (if n < 0x80000000 then n.toNat else (0 - n).toNat)

/-- The fault that the operating system reports. -/
def faultOf : IO.Error → FileFault
  | .inappropriateType _ n words => faultNumbered n words
  | .invalidArgument _ n words => faultNumbered n words
  | .permissionDenied _ n words => faultNumbered n words
  | .resourceExhausted _ n words => faultNumbered n words
  | .otherError n words => faultNumbered n words
  | _ => .notFound

/-- The content of the file at a path. -/
def fetch (p : FilePath) : IO (Except FileFault (List UInt8)) := do
  match Text.decode? p.bytes with
  | none => return .error .notFound
  | some cs =>
    try
      return .ok (← IO.FS.readBinFile (String.ofList cs)).toList
    catch e => return .error (faultOf e)

/-- Fetches what a validation reads, until nothing is missing. -/
partial def gather (directory : FilePath) (v : Command.Validation) (known : Fetched) :
    IO Fetched := do
  let wanted := Command.pathsRead (known.system directory) v
  match wanted.find? fun p => (known.lookup p).isNone with
  | none => return known
  | some p => gather directory v ((p, ← fetch p) :: known)

/-- Prints a result; the code is that of the program. -/
def finish (r : Command.Result) : IO UInt32 := do
  IO.print r.output
  IO.eprint (r.error.getD "")
  return r.code.toUInt32

end Wsdl.Main

def main (args : List String) : IO UInt32 := do
  let directory := Wsdl.FilePath.ofText (← IO.currentDir).toString
  let known ← match Wsdl.Command.readArguments args with
    | .validate v => Wsdl.Main.gather directory v []
    | _ => pure []
  Wsdl.Main.finish (Wsdl.Command.run (Wsdl.Main.Fetched.system known directory) args)
