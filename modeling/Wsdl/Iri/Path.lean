-- Paths of IRIs. A path is read name by name; names of one dot are left
-- out, and names of two dots take back the name before. Drives of files
-- have rules of their own. An IRI of a file stands for a path of the file system.
import Wsdl.File.Path
import Wsdl.Iri.Basic

namespace Wsdl.Iri

/-! ## Breaks -/

/-- A tab or a line end. It counts for nothing in an IRI, but for one that
ends a drive. -/
def isBreak (c : Char) : Bool := c == '\t' || c == '\n' || c == '\r'

/-- The text without its breaks. -/
def joined (cs : List Char) : List Char := cs.filter (! isBreak ·)

/-! ## Names in a path -/

def isSlash (c : Char) : Bool := c == '/' || c == '\\'

/-- A dot, which may be escaped. -/
def dropDot? : List Char → Option (List Char)
  | '.' :: cs => some cs
  | '%' :: '2' :: e :: cs => if e == 'e' || e == 'E' then some cs else none
  | _ => none

/-- Whether the name stays where it is. -/
def isDot (name : List Char) : Bool := dropDot? name == some []

/-- Whether the name goes one up. -/
def isDotDot (name : List Char) : Bool := (dropDot? name).any isDot

/-! ## Drives -/

/-- A letter with a colon, which may be written as a bar. -/
def isDrive : List Char → Bool
  | [a, b] => a.isAlpha && (b == ':' || b == '|')
  | _ => false

/-- A letter with a colon. -/
def isPlainDrive : List Char → Bool
  | [a, ':'] => a.isAlpha
  | _ => false

/-- Whether the first name of the text is a drive. -/
def startsWithDrive (cs : List Char) : Bool := isDrive (joined (cs.takeWhile (! isSlash ·)))

/-- A drive that a break follows within a name, and the rest of the name. -/
def cutDrive? (name : List Char) : Option (List Char × List Char) :=
  match Text.cutAt ':' name with
  | some (letter, rest) =>
    let drive := joined letter ++ [':']
    if isPlainDrive drive && rest.head?.any isBreak && !(joined rest).isEmpty then
      some (drive, joined rest)
    else none
  | none => none

/-! ## Reading a path -/

/-- The names between separators. In other schemes than plain ones a
backslash separates too. -/
def splitPath (k : SchemeKind) (cs : List Char) : List (List Char) :=
  Text.splitWhere (fun c => c == '/' || (k != .plain && c == '\\')) cs

/-- Goes one up, though not above the root, nor out of a drive. The names
stand innermost first, the empty one before the root last. -/
def goUp : List (List Char) → List (List Char)
  | name :: outer :: rest => if isDrive name then name :: outer :: rest else outer :: rest
  | names => names

/-- How far a path is read. -/
structure PathDraft where
  /-- The names, innermost first. -/
  names : List (List Char)
  /-- Whether a drive came to be the first name. -/
  hasDrive : Bool
  /-- Whether no slash stands behind the innermost name. -/
  isOpen : Bool

/-- The names of a path. -/
def pathNames (path : List Char) : List (List Char) := Text.splitWhere (· == '/') path

namespace PathDraft

/-! ### Where paths start -/

/-- A path from the root. -/
def root : PathDraft := ⟨[[]], false, false⟩

/-- A path in a drive, if there is one. -/
def within (drive : Option (List Char)) : PathDraft := { root with names := drive.toList ++ [[]] }

/-- A path that goes on from another one, whose last name is left out. A
drive in the last place stays, and what follows is written onto it unless
it is the first name. -/
def after (k : SchemeKind) (path : List Char) : PathDraft :=
  match (pathNames path).reverse with
  | last :: outer =>
    if k == .file && isPlainDrive last then ⟨last :: outer, false, 1 < outer.length⟩
    else if outer.isEmpty then root
    else { root with names := outer }
  | [] => root

/-! ### Taking names in -/

/-- Whether nothing but the root is there. -/
def isAtRoot (d : PathDraft) : Bool :=
  match d.names with
  | [_] => true
  | _ => false

/-- Goes one up. From an open name it only closes the name. -/
def up (d : PathDraft) : PathDraft :=
  if d.isOpen then { d with isOpen := false } else { d with names := goUp d.names }

/-- Writes onto the innermost name if it is open, or else after it. -/
def push (d : PathDraft) (written : List Char) : PathDraft :=
  match d.isOpen, d.names with
  | true, name :: names => { d with names := (name ++ written) :: names, isOpen := false }
  | _, names => { d with names := written :: names, isOpen := false }

/-- Takes in the first name behind the root. A drive is set apart there: it
is written with a colon, and a break behind it ends the name. -/
def addFirst (d : PathDraft) (name : List Char) : PathDraft :=
  let written := escape pathSet (joined name)
  match cutDrive? name with
  | some (drive, rest) => (d.push drive).push (escape pathSet rest)
  | none =>
    if isDrive written then { d.push [written.headD ' ', ':'] with hasDrive := true }
    else d.push written

/-- Takes in a name that is not the last one. -/
def add (k : SchemeKind) (d : PathDraft) (name : List Char) : PathDraft :=
  let written := escape pathSet (joined name)
  if isDotDot written then d.up
  else if isDot written then { d with isOpen := false }
  else if k == .file && d.isAtRoot then d.addFirst name
  else d.push written

/-- Takes in the last name. A dot there leaves an empty name. -/
def addLast (k : SchemeKind) (d : PathDraft) (name : List Char) : PathDraft :=
  let written := escape pathSet (joined name)
  if d.isOpen && isDotDot written then d.up
  else if isDotDot written || isDot written then (d.add k name).push []
  else d.add k name

/-- Takes in names, of which the last one is the last of the path. -/
def addAll (k : SchemeKind) (d : PathDraft) : List (List Char) → PathDraft
  | [] => d
  | [name] => d.addLast k name
  | name :: names => addAll k (d.add k name) names

/-- The names with slashes between. -/
def text (d : PathDraft) : List Char := ['/'].intercalate d.names.reverse

end PathDraft

/-- The path with one slash in front. -/
def withOneSlash (path : List Char) : List Char := '/' :: path.dropWhile (· == '/')

/-- Reads a path from where it starts: the path, and whether a drive came to
be its first name. -/
def readPath (k : SchemeKind) (start : PathDraft) (cs : List Char) : List Char × Bool :=
  let d := start.addAll k (splitPath k cs)
  (if k == .file then withOneSlash d.text else d.text, d.hasDrive)

/-! ## Paths of files -/

/-- The path of a file's IRI; none if the file is on another host. A drive
at the end gets a slash. -/
def filePath? (i : Iri) : Option FilePath :=
  let host := i.authority.bind (·.host)
  if host.isNone || host == some (.name "localhost".toList) then
    let bytes := unescape i.path
    match bytes.reverse with
    | b :: a :: _ :: _ =>
      let isLetter := (0x41 ≤ a && a ≤ 0x5A) || (0x61 ≤ a && a ≤ 0x7A)
      if isLetter && (b == 0x3A || b == 0x7C) then some ⟨bytes ++ [FilePath.slash]⟩
      else some ⟨bytes⟩
    | _ => some ⟨bytes⟩
  else none

/-- The IRI of the file at a path from the root; none for other paths. -/
def ofFilePath? (p : FilePath) : Option Iri :=
  if p.isAbsolute then
    let names := p.names.map fun name => '/' :: escapeBytes segmentSet name
    let path := if names.isEmpty then ['/'] else names.flatten
    some ⟨"file", some .empty, path, none, none⟩
  else none

end Wsdl.Iri
