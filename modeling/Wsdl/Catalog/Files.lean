-- Catalogs in files. A catalog file holds entries and names further
-- catalogs, whose entries are taken in where they are named. What cannot
-- be read of those is left out. Where catalogs lead back to one that is being
-- read, loading does not end.
import Wsdl.Catalog.Basic
import Wsdl.Catalog.Trail
import Wsdl.Xml.Document

namespace Wsdl.Catalog

open Xml (Element)

/-! ## What a catalog file holds -/

/-- One thing that a catalog file says. -/
inductive Item where
  | system (id uri : String)
  | uri (name uri : String)
  /-- Another catalog to be read. -/
  | next (path : String)
  deriving DecidableEq, Repr

/-- What an element says, other than a group; nothing if an attribute is
missing. -/
def itemOf (e : Element) : List Item :=
  match e.localName with
  | "system" =>
    match e.attribute? "systemId", e.attribute? "uri" with
    | some id, some uri => [.system id uri]
    | _, _ => []
  | "uri" =>
    match e.attribute? "name", e.attribute? "uri" with
    | some name, some uri => [.uri name uri]
    | _, _ => []
  | "nextCatalog" => (e.attribute? "catalog").toList.map .next
  | _ => []

mutual

/-- What an element says. A group says what the elements in it say. -/
def items : Element → List Item
  | ⟨name, as, t, cs, s, p⟩ =>
    if name.localName == "group" then itemsAll cs else itemOf ⟨name, as, t, cs, s, p⟩

def itemsAll : List Element → List Item
  | [] => []
  | e :: es => items e ++ itemsAll es

end

/-- What a catalog document says. -/
def itemsOfText (s : String) : Except Error (List Item) := do
  match ← Xml.Document.parse .standard s with
  | none => throw (.document .emptyCatalog none none)
  | some root =>
    if root.localName = "catalog" then return itemsAll root.children
    else throw (.document (.notCatalog root.localName) none none)

/-- What the catalog file at a path says. -/
def itemsOfFile (fs : FileSystem) (p : FilePath) : Except Error (List Item) := do
  itemsOfText (← (fs.readText p).mapError fun f => .resource (.unreadableCatalog p.text f))

/-! ## Taking in further catalogs -/

/-- A place as written in a catalog of some directory. IRIs stand as they
are. -/
def locate (directory : Option FilePath) (uri : String) : String :=
  if (Iri.parse uri).toOption.isSome then uri
  else
    match directory with
    | some d => (d.join (.ofText uri)).text
    | none => uri

/-- The path of a catalog that is named in one of some directory. -/
def nextPath (directory : Option FilePath) (path : String) : FilePath :=
  match directory with
  | some d => d.join (.ofText path)
  | none => .ofText path

/-- What can be read has a path that can be opened. -/
theorem short_of_itemsOfFile {fs : FileSystem} {p : FilePath} {items : List Item}
    (h : itemsOfFile fs p = .ok items) : p.bytes.length < FileSystem.pathLimit := by
  apply Nat.lt_of_not_le
  intro hlong
  obtain ⟨f, hf⟩ : ∃ f, fs.read p = .error f := by
    unfold FileSystem.read
    split
    · exact ⟨_, rfl⟩
    · split <;> exact ⟨_, rfl⟩
  have hunreadable : itemsOfFile fs p = .error (.resource (.unreadableCatalog p.text f)) := by
    simp only [itemsOfFile, FileSystem.readText, hf]
    rfl
  cases h.symm.trans hunreadable

/-- The entries that the items of a catalog in some directory give. A catalog
that is being read already would be read again, and again from there: nothing
ever comes of that. -/
def entries (fs : FileSystem) (t : Trail) (directory : Option FilePath) :
    List Item → Option (List Entry)
  | [] => some []
  | .system id uri :: rest => do
    return .system id (locate directory uri) :: (← entries fs t directory rest)
  | .uri name uri :: rest => do
    return .uri name (locate directory uri) :: (← entries fs t directory rest)
  | .next path :: rest => do
    let inner ←
      (if hmem : nextPath directory path ∈ t.paths then none
      else
        match hitems : itemsOfFile fs (nextPath directory path) with
        | .ok items =>
          entries fs (t.push (nextPath directory path) ⟨hmem, short_of_itemsOfFile hitems⟩)
            (nextPath directory path).parent? items
        | .error _ => some [])
    return inner ++ (← entries fs t directory rest)
  termination_by items => (t.room, items.length)
  decreasing_by
    · exact Prod.Lex.right _ (by simp)
    · exact Prod.Lex.right _ (by simp)
    · exact Prod.Lex.left _ _ (t.room_push _ _)
    · exact Prod.Lex.right _ (by simp)

/-- The catalog of the file at a path, with all that it takes in, or the error
with which loading it ends. Nothing if it does not end. -/
def ofFile (fs : FileSystem) (p : FilePath) : Option (Except Error Catalog) :=
  match hitems : itemsOfFile fs p with
  | .ok items =>
    (entries fs (Trail.empty.push p ⟨List.not_mem_nil, short_of_itemsOfFile hitems⟩) p.parent?
      items).map fun es => .ok (ofEntries es)
  | .error e => some (.error e)

/-! ## Which files are read -/

/-- The way that begins at a path. -/
def trailFrom (p : FilePath) : Trail :=
  if h : Trail.empty.Fresh p then Trail.empty.push p h else .empty

/-- The paths of the catalogs that the items of a catalog in some directory
lead to, directly or through others. What is on the way already is not
followed again. -/
def furtherPaths (fs : FileSystem) (t : Trail) (directory : Option FilePath) :
    List Item → List FilePath
  | [] => []
  | .system .. :: rest => furtherPaths fs t directory rest
  | .uri .. :: rest => furtherPaths fs t directory rest
  | .next path :: rest =>
    (if h : t.Fresh (nextPath directory path) then
      nextPath directory path :: match itemsOfFile fs (nextPath directory path) with
        | .ok inner =>
          furtherPaths fs (t.push (nextPath directory path) h) (nextPath directory path).parent?
            inner
        | .error _ => []
    else []) ++ furtherPaths fs t directory rest
  termination_by items => (t.room, items.length)
  decreasing_by
    · exact Prod.Lex.right _ (by simp)
    · exact Prod.Lex.right _ (by simp)
    · exact Prod.Lex.left _ _ (t.room_push _ h)
    · exact Prod.Lex.right _ (by simp)

/-- The paths that are read for the catalog of the file at a path. -/
def pathsFrom (fs : FileSystem) (p : FilePath) : List FilePath :=
  p :: match itemsOfFile fs p with
    | .ok items => furtherPaths fs (trailFrom p) p.parent? items
    | .error _ => []

end Wsdl.Catalog
