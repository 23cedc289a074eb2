-- Files held in memory: a directory tree, and what comes of opening a path
-- in it.
import Wsdl.File.System

namespace Wsdl

/-- Files and directories, each by the names on the way to it. -/
structure FileTree where
  files : List (List (List UInt8) × List UInt8)
  directories : List (List (List UInt8))
  deriving DecidableEq, Repr

namespace FileTree

/-- The tree with nothing but its root. -/
def empty : FileTree := ⟨[], []⟩

/-- Adds a file; the directories on the way to it are there with it. -/
def addFile (t : FileTree) (p : FilePath) (content : List UInt8) : FileTree :=
  { t with files := (p.names, content) :: t.files }

def addDirectory (t : FileTree) (p : FilePath) : FileTree :=
  { t with directories := p.names :: t.directories }

/-! ## Opening a path -/

/-- The content of the file at the end of some names. -/
def file? (t : FileTree) (place : List (List UInt8)) : Option (List UInt8) := t.files.lookup place

def isDirectory (t : FileTree) (place : List (List UInt8)) : Bool :=
  place.isEmpty || t.directories.any place.isPrefixOf
    || t.files.any fun f => place.isPrefixOf f.1.dropLast

/-- No name is longer than this many bytes. -/
def nameLimit : Nat := 255

/-- The place one step on from another. Only directories have anything
beyond them, themselves included. -/
def step (t : FileTree) (place : List (List UInt8)) (piece : List UInt8) :
    Except FileFault (List (List UInt8)) :=
  if !t.isDirectory place then .error .notDirectory
  else if FilePath.isIdle piece then .ok place
  else if piece = [FilePath.dot, FilePath.dot] then .ok place.dropLast
  else if nameLimit < piece.length then .error .nameTooLong
  else
    let next := place ++ [piece]
    if (t.file? next).isSome || t.isDirectory next then .ok next else .error .notFound

/-- The content of the file that a path leads to from a directory. -/
def contents (t : FileTree) (directory p : FilePath) : Except FileFault (List UInt8) := do
  let start := if p.isAbsolute then [] else directory.names
  let found ← (FilePath.pieces p.bytes).foldlM t.step start
  match t.file? found with
  | some content => return content
  | none => throw .isDirectory

/-- The files of the tree as seen from a directory. -/
def system (t : FileTree) (directory : FilePath) : FileSystem :=
  ⟨directory, t.contents directory⟩

end FileTree

end Wsdl
