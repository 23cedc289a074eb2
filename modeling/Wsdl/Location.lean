-- Locations: where a document is. A location is a path, an IRI, or the
-- document itself.
import Wsdl.Error
import Wsdl.Iri.Parse

namespace Wsdl

/-- Where a document is. -/
inductive Location where
  | path (p : FilePath)
  | iri (i : Iri)
  /-- The text of the document. -/
  | content (text : String)
  deriving DecidableEq, Repr

namespace Location

/-- Whether the scheme is one letter, which is rather a drive. -/
def isDriveScheme (i : Iri) : Bool := i.scheme.length ≤ 1

/-- The location that a text gives: an IRI if it is one, otherwise a path.
The IRI of a file gives its path. -/
def parse (s : String) : Except Error Location :=
  match Iri.parse s with
  | .ok i =>
    if i.scheme = "file" then
      match i.filePath? with
      | some p => .ok (path p)
      | none => .error (.resource (.notFileUrl s))
    else if isDriveScheme i then .ok (path (.ofText s))
    else .ok (iri i)
  | .error _ => .ok (path (.ofText s))

/-- The location of a reference that was found in a document with the
given base. -/
def resolve (base : Option Iri) (reference : String) : Except Error Location :=
  let seen : Except Error Location :=
    match base with
    | some b => do parse (← (b.join reference).mapError .iri).text
    | none => .ok (path (.ofText reference))
  match Iri.parse reference with
  | .ok i => if isDriveScheme i then seen else parse i.text
  | .error _ => seen

/-- The base that references in the document are relative to. -/
def base? (fs : FileSystem) : Location → Option Iri
  | path p => Iri.ofFilePath? (fs.absolute p)
  | iri i => some i
  | content _ => none

def text : Location → String
  | path p => p.text
  | iri i => i.text
  | content _ => "<string>"

def isRemote : Location → Bool
  | iri _ => true
  | _ => false

def isFile : Location → Bool
  | path _ => true
  | _ => false

/-- The path of a document in a file. -/
def path? : Location → Option FilePath
  | path p => some p
  | _ => none

/-- The text of the document at a location. Nothing is fetched from
elsewhere. -/
def load (fs : FileSystem) (limits : Limits) (allowRemote : Bool) :
    Location → Except Error String
  | path p => do
    let s ← (fs.readText p).mapError fun f => .resource (.unreadable p.text f)
    (limits.check .size s.utf8ByteSize).mapError .limit
    return s
  | iri i =>
    .error (.resource (if allowRemote then .remoteUnsupported i.text else .remoteForbidden i.text))
  | content s => do
    (limits.check .size s.utf8ByteSize).mapError .limit
    return s

end Location

end Wsdl
