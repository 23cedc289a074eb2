-- The files that can be read. A file system is a function from paths to
-- contents; nothing here writes.
import Wsdl.File.Path

namespace Wsdl

/-- Why a file cannot be read. -/
inductive FileFault where
  | notFound
  | notDirectory
  | isDirectory
  | nameTooLong
  | denied
  | linkLoop
  | nulByte
  | notText
  /-- Any other fault, as the system words and numbers it. -/
  | system (words : String) (number : Nat)
  deriving DecidableEq, Repr

def FileFault.message : FileFault → String
  | notFound => "No such file or directory (os error 2)"
  | notDirectory => "Not a directory (os error 20)"
  | isDirectory => "Is a directory (os error 21)"
  | nameTooLong => "File name too long (os error 36)"
  | denied => "Permission denied (os error 13)"
  | linkLoop => "Too many levels of symbolic links (os error 40)"
  | nulByte => "file name contained an unexpected NUL byte"
  | notText => "stream did not contain valid UTF-8"
  | system words number => words ++ " (os error " ++ toString number ++ ")"

/-- The fault that has a number and words in the operating system. -/
def FileFault.ofNumber (words : String) : Nat → FileFault
  | 2 => notFound
  | 13 => denied
  | 20 => notDirectory
  | 21 => isDirectory
  | 36 => nameTooLong
  | 40 => linkLoop
  | n => system words n

/-- Files that can be read by path, and the directory that relative paths
start from. -/
structure FileSystem where
  workingDirectory : FilePath
  contents : FilePath → Except FileFault (List UInt8)

namespace FileSystem

/-- No path of this many bytes is opened. -/
def pathLimit : Nat := 4096

/-- The bytes of a file. -/
def read (fs : FileSystem) (p : FilePath) : Except FileFault (List UInt8) :=
  if p.bytes.contains 0 then .error .nulByte
  else if p.bytes.isEmpty then .error .notFound
  else if pathLimit ≤ p.bytes.length then .error .nameTooLong
  else fs.contents p

/-- The text of a file. -/
def readText (fs : FileSystem) (p : FilePath) : Except FileFault String := do
  let bytes ← fs.read p
  match Text.decode? bytes with
  | some cs => return String.ofList cs
  | none => throw .notText

/-- A path as seen from the root. -/
def absolute (fs : FileSystem) (p : FilePath) : FilePath := fs.workingDirectory.join p

end FileSystem

end Wsdl
