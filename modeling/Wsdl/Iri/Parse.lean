-- Reading IRIs. A text is read as an IRI, or as a reference relative to
-- one, and brought to a usual form on the way. A resolver gives the IRI of what a text
-- names.
import Wsdl.Iri.Path

namespace Wsdl.Iri

/-! ## References -/

/-- A reference cut at its query and its fragment. Only the body still has
its breaks. -/
structure Reference where
  body : List Char
  query : Option (List Char)
  fragment : Option (List Char)
  deriving DecidableEq, Repr

namespace Reference

/-- A space or a control. -/
def isEdge (c : Char) : Bool := c.toNat ≤ 0x20

/-- The text before a character and, if it occurs, the text after it. -/
def cut (c : Char) (cs : List Char) : List Char × Option (List Char) :=
  match Text.cutAt c cs with
  | some (a, b) => (a, some b)
  | none => (cs, none)

/-- The reference that a text is. Spaces and controls around the text do
not count. -/
def ofText (s : String) : Reference :=
  let (rest, fragment) := cut '#' (Text.dropRight isEdge (s.toList.dropWhile isEdge))
  let (body, query) := cut '?' rest
  ⟨body, query.map joined, fragment.map joined⟩

/-- The reference with another body, which has no breaks any more. -/
def withBody (r : Reference) (body : List Char) : Reference := { r with body := joined body }

/-- Whether anything follows the body. -/
def hasMore (r : Reference) : Bool := r.query.isSome || r.fragment.isSome

/-- The query in its written form. -/
def queryText (r : Reference) (k : SchemeKind) : Option (List Char) :=
  r.query.map (escape (if k = .plain then querySet else specialQuerySet))

def fragmentText (r : Reference) : Option (List Char) := r.fragment.map (escape fragmentSet)

/-- The IRI of the reference's query and fragment, with the other parts
given. -/
def complete (r : Reference) (scheme : String) (a : Option Authority) (path : List Char) : Iri :=
  ⟨scheme, a, path, r.queryText (kindOf scheme), r.fragmentText⟩

end Reference

/-- Whether the character can stand in a scheme. -/
def isSchemeChar (c : Char) : Bool := c.isAlphanum || c == '+' || c == '-' || c == '.'

/-- The scheme of a text, in lower case, and what follows its colon. -/
def cutScheme (cs : List Char) : Option (String × List Char) :=
  match Text.cutAt ':' cs with
  | some (written, rest) =>
    let scheme := joined written
    if (scheme.head?.any Char.isAlpha) && scheme.all isSchemeChar then
      some (String.ofList (scheme.map Char.toLower), rest)
    else none
  | none => none

/-! ## Authorities -/

/-- Whether the character ends an authority. -/
def endsAuthority (k : SchemeKind) (c : Char) : Bool := c == '/' || (k != .plain && c == '\\')

/-- The text before the last "@", if there is one, and the text after. -/
def cutUser (cs : List Char) : Option (List Char) × List Char :=
  match Text.cutAt '@' cs.reverse with
  | some (after, before) => (some before.reverse, after.reverse)
  | none => (none, cs)

/-- The characters up to a colon that stands outside of brackets. -/
def hostLength (inside : Bool) : List Char → Nat
  | [] => 0
  | c :: cs =>
    if c == ':' && !inside then 0
    else hostLength (c == '[' || (inside && c != ']')) cs + 1

/-- The number of a port, at most 65535. A port ends where the authority
does, at a slash or backslash. -/
def readPort (cs : List Char) : Except Fault (Option Nat × List Char) :=
  let digits := cs.takeWhile Char.isDigit
  let rest := cs.drop digits.length
  let n := (readDigits? decimalValue? 10 digits).getD 0
  if 65535 < n then .error .invalidPort
  else if rest.head?.any (! isSlash ·) then .error .invalidPort
  else .ok (if digits.isEmpty then none else some n, rest)

/-- The user and the password of an authority, escaped. -/
def readUser (cs : List Char) : List Char × List Char :=
  match Text.cutAt ':' cs with
  | some (user, password) => (escape userSet user, escape userSet password)
  | none => (escape userSet cs, [])

/-- The host that stands first in a text, and what follows it. -/
def readHost (k : SchemeKind) (cs : List Char) : Except Fault (Option Host × List Char) :=
  let within := cs.takeWhile (! endsAuthority k ·)
  let n := hostLength false within
  let written := within.take n
  let rest := cs.drop n
  if written.isEmpty then
    if k != .plain || rest.head? == some ':' then .error .emptyHost else .ok (none, rest)
  else if k == .plain then do return (some (← Host.ofOpaque written), rest)
  else do return (some (← Host.ofDomain written), rest)

/-- Reads an authority: it and what follows it. `hasMore` tells whether a
query or fragment follows the text. -/
def readAuthority (scheme : String) (hasMore : Bool) (cs : List Char) :
    Except Fault (Authority × List Char) := do
  let k := kindOf scheme
  let within := cs.takeWhile (! endsAuthority k ·)
  let beyond := cs.drop within.length
  let (credentials, place) := cutUser within
  if credentials == some [] && place.isEmpty && (hasMore || !beyond.isEmpty) then
    throw .emptyHost
  let (user, password) := readUser (credentials.getD [])
  let (host, rest) ← readHost k (place ++ beyond)
  let (port, rest) ←
    match rest with
    | ':' :: afterColon => readPort afterColon
    | _ => pure (none, rest)
  if host.isNone && !(user.isEmpty && password.isEmpty) then throw .emptyHost
  return (⟨user, password, host, if port == defaultPort? scheme then none else port⟩, rest)

/-! ## Absolute and relative references -/

/-- The IRI whose authority starts the body. -/
def ofAuthority (scheme : String) (r : Reference) : Except Fault Iri := do
  let (authority, rest) ← readAuthority scheme r.hasMore r.body
  let k := kindOf scheme
  let path :=
    match rest with
    | [] => if k = .plain then [] else ['/']
    | c :: cs => if endsAuthority k c then (readPath k .root cs).1 else (readPath k .root (c :: cs)).1
  return r.complete scheme (some authority) path

/-- The reference seen from an IRI of the same scheme, other than for
files. -/
def relativeTo (base : Iri) (r : Reference) : Except Fault Iri :=
  let k := kindOf base.scheme
  match r.body with
  | [] =>
    .ok { base with
      query := if r.query.isSome then r.queryText k else base.query, fragment := r.fragmentText }
  | c :: cs =>
    if isSlash c then
      if cs.head?.any isSlash then
        let rest :=
          if c == '/' && cs.head? == some '/' then cs.drop 1 else cs.dropWhile isSlash
        ofAuthority base.scheme { r with body := rest }
      else .ok (r.complete base.scheme base.authority (readPath k .root cs).1)
    else
      .ok (r.complete base.scheme base.authority
        (readPath k (.after k base.path) r.body).1)

/-- The host of a file: none if it is empty or this machine. -/
def readFileHost (written : List Char) : Except Fault (Option Host) :=
  if written.isEmpty then .ok none
  else do
    let h ← Host.ofDomain written
    return if h = .name "localhost".toList then none else some h

/-- The IRI of a file, seen from the IRI of another one if there is one. -/
def ofFile (base : Option Iri) (r : Reference) : Except Fault Iri :=
  let make (h : Option Host) (path : List Char) : Iri :=
    r.complete "file" (some (.ofHost h)) path
  let baseHost := (base.bind (·.authority)).bind (·.host)
  match r.body.dropWhile isBreak with
  | [] =>
    match base with
    | some b => relativeTo b (r.withBody [])
    | none => .ok (make none ['/'])
  | c :: cs =>
    if isSlash c then
      let next := cs.dropWhile isBreak
      if next.head?.any isSlash then do
        let beyond := next.drop 1
        let written := joined (beyond.takeWhile (! isSlash ·))
        let rest := beyond.dropWhile (! isSlash ·)
        if isDrive written then return make none (readPath .file .root beyond).1
        let host ← readFileHost written
        if host.isNone then return make none (readPath .file .root rest).1
        let (path, hasDrive) := readPath .file .root (rest.drop 1)
        return make (if hasDrive then none else host) path
      else
        let drive := (base.bind fun b => ((pathNames b.path).drop 1).head?).filter isPlainDrive
        if startsWithDrive cs then .ok (make none (readPath .file .root cs).1)
        else if drive.isSome then .ok (make none (readPath .file (.within drive) cs).1)
        else .ok (make baseHost (readPath .file .root cs).1)
    else if startsWithDrive r.body then .ok (make none (readPath .file .root r.body).1)
    else
      match base with
      | some b => .ok (make baseHost (readPath .file (.after .file b.path) r.body).1)
      | none => .ok (make none (readPath .file .root r.body).1)

/-- The IRI of a text after its scheme. -/
def ofSchemeBody (base : Option Iri) (scheme : String) (r : Reference) : Except Fault Iri :=
  let sameScheme := base.filter (·.scheme == scheme)
  let body := joined r.body
  match kindOf scheme with
  | .file => ofFile sameScheme r
  | .special =>
    match sameScheme with
    | some b =>
      if (body.takeWhile isSlash).length < 2 then relativeTo b (r.withBody body)
      else ofAuthority scheme (r.withBody (body.dropWhile isSlash))
    | none => ofAuthority scheme (r.withBody (body.dropWhile isSlash))
  | .plain =>
    match body with
    | '/' :: '/' :: cs => ofAuthority scheme (r.withBody cs)
    | '/' :: cs => .ok (r.complete scheme none (readPath .plain .root cs).1)
    | cs => .ok (r.complete scheme none (escape controlSet cs))

/-- Reads a reference, relative to an IRI if one is given. -/
def resolve (base : Option Iri) (s : String) : Except Fault Iri :=
  let r := Reference.ofText s
  match cutScheme r.body with
  | some (scheme, rest) => ofSchemeBody base scheme { r with body := rest }
  | none =>
    match base with
    | none => .error .relativeWithoutBase
    | some b =>
      if b.isOpaque && !(r.body.isEmpty && r.query.isNone && r.fragment.isSome) then
        .error .relativeToOpaque
      else if kindOf b.scheme = .file then ofFile (some b) r
      else relativeTo b (r.withBody r.body)

/-- Reads an IRI. -/
def parse (s : String) : Except Fault Iri := resolve none s

/-- The IRI of a reference found at an IRI. -/
def join (base : Iri) (s : String) : Except Fault Iri := resolve (some base) s

/-! ## Questions about texts -/

/-- Whether the text is an IRI with a scheme; blanks around it do not
count. -/
def isAbsoluteText (s : String) : Bool := (parse (Text.trim s)).toOption.isSome

/-- Whether the text is an IRI with a hierarchy. -/
def isHierarchicalText (s : String) : Bool :=
  (parse (Text.trim s)).toOption.any isHierarchical

end Wsdl.Iri

namespace Wsdl

/-! ## Resolvers -/

/-- Gives the IRI of the resource that a text names, if there is one. -/
abbrev Resolver := String → Option Iri

namespace Resolver

/-- The schemes under which resources can be had. -/
def schemes : List String := ["http", "https", "file"]

/-- Takes the text for the IRI of the resource. -/
def standard : Resolver := fun s => (Iri.parse s).toOption.filter fun i => schemes.contains i.scheme

end Resolver

end Wsdl
