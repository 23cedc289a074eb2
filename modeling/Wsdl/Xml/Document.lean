-- Building the tree of a document from its markup.
import Wsdl.Error
import Wsdl.Xml.Tree

namespace Wsdl.Xml

/-! ## Start tags -/

/-- A start tag with its names resolved. -/
structure Opening where
  name : QName
  attributes : List (QName × String)
  scope : Scope
  deriving DecidableEq, Repr

namespace Opening

/-- The attributes of a start tag, sorted into declarations and others. -/
structure Sorted where
  scope : Scope
  /-- How many namespaces were declared. -/
  declared : Nat
  /-- The other attributes as written, in order. -/
  others : List (String × String)
  deriving DecidableEq, Repr

/-- The prefix that an attribute declares, if it declares one. -/
def declaredPrefix? (key : List Char) : Option String :=
  match key with
  | 'x' :: 'm' :: 'l' :: 'n' :: 's' :: ':' :: p => some (String.ofList p)
  | _ => none

/-- Takes in one attribute. -/
def Sorted.add (s : Sorted) (key : List Char) (value : String) : Sorted :=
  if key = ['x', 'm', 'l', 'n', 's'] then
    { s with scope := s.scope.setDefault value, declared := s.declared + 1 }
  else
    match declaredPrefix? key with
    | some p => { s with scope := s.scope.bind p value, declared := s.declared + 1 }
    | none => { s with others := s.others ++ [(String.ofList key, value)] }

/-- Takes in the attributes one by one; each is read before the next. -/
def sort (s : Sorted) : List RawAttribute → Except Fault Sorted
  | [] => .ok s
  | a :: as => do
    let value ← (Entity.unescape a.value).mapError .attributeValue
    sort (s.add a.key (String.ofList value)) as

/-- The attributes of a tag, sorted. -/
def sortScan (outer : Scope) (scan : Attribute.Scan) : Except Fault Sorted := do
  let s ← sort ⟨outer, 0, []⟩ scan.attributes
  match scan.fault with
  | some f => throw (.attribute f)
  | none => return s

/-- Gives an attribute a value, in place of the one it may have. -/
def put (name : QName) (value : String) : List (QName × String) → List (QName × String)
  | [] => [(name, value)]
  | a :: as => if a.1 = name then (name, value) :: as else a :: put name value as

/-- Resolves the names of attributes. -/
def resolveAll (s : Scope) (done : List (QName × String)) :
    List (String × String) → Except Scope.Fault (List (QName × String))
  | [] => .ok done
  | (key, value) :: rest => do
    let name ← s.resolveAttribute key
    resolveAll s (put name value done) rest

/-- A tag with its names resolved: all its declarations are in force
before the first of them. -/
def ofTag (limits : Limits) (outer : Scope) (tag : Tag) : Except Error Opening := do
  let sorted ← (sortScan outer (Attribute.scan tag.name tag.afterName)).mapError .xml
  (limits.check .namespaces sorted.declared).mapError .limit
  (limits.check .attributes sorted.others.length).mapError .limit
  let name ← (sorted.scope.resolveElement (String.ofList tag.name)).mapError .scope
  let attributes ← (resolveAll sorted.scope [] sorted.others).mapError .scope
  return ⟨name, attributes, sorted.scope⟩

end Opening

/-! ## Elements that are still open -/

/-- An element whose end has not been read: its children stand latest
first. -/
structure Draft where
  opening : Opening
  position : Position
  text : Option String
  children : List Element
  deriving Repr

namespace Draft

/-- The element as it is when its end is read. -/
def close (d : Draft) : Element :=
  ⟨d.opening.name, d.opening.attributes, d.text, d.children.reverse, d.opening.scope,
    d.position⟩

def addChild (d : Draft) (e : Element) : Draft := { d with children := e :: d.children }

/-- Adds character data behind what is there. -/
def addText (d : Draft) (s : String) : Draft := { d with text := some (d.text.getD "" ++ s) }

end Draft

/-- How far a document is built: the open elements, innermost first, and
the last complete one that is in no other. -/
structure Building where
  opened : List Draft
  root : Option Element
  deriving Repr

namespace Building

def start : Building := ⟨[], none⟩

/-- The bindings in force where the building stands. -/
def scope (b : Building) : Scope :=
  match b.opened with
  | d :: _ => d.opening.scope
  | [] => .empty

/-- Puts a complete element where it belongs. -/
def place (b : Building) (e : Element) : Building :=
  match b.opened with
  | d :: ds => { b with opened := d.addChild e :: ds }
  | [] => { b with root := some e }

/-- The draft of an element that starts here. -/
def draft (limits : Limits) (b : Building) (tag : Tag) (position : Position) :
    Except Error Draft := do
  (limits.check .depth (b.opened.length + 1)).mapError .limit
  let opening ← Opening.ofTag limits b.scope tag
  return ⟨opening, position, none, []⟩

/-- Adds character data to the innermost open element. Outside of all
elements nothing happens, and blank character data is left out. -/
def addText (b : Building) (raw : List Char) : Except Error Building :=
  match b.opened with
  | d :: ds => do
    let cs ← (Entity.unescape raw).mapError fun f => .xml (.text f)
    if cs.all Text.isBlank then return b
    else return { b with opened := d.addText (String.ofList cs) :: ds }
  | [] => .ok b

/-- Takes in one event. -/
def step (limits : Limits) (positionOf : Nat → Position) (b : Building) (m : Marked) :
    Except Error Building :=
  match m.event with
  | .start tag => do
    let d ← draft limits b tag (positionOf m.mark)
    return { b with opened := d :: b.opened }
  | .empty tag => do
    let d ← draft limits b tag (positionOf m.mark)
    return b.place d.close
  | .close =>
    match b.opened with
    | d :: ds => .ok (place { b with opened := ds } d.close)
    | [] => .ok b
  | .text raw => b.addText raw
  | .cdata content =>
    match b.opened with
    | d :: ds => .ok { b with opened := d.addText (String.ofList content) :: ds }
    | [] => .ok b
  | .other => .ok b

end Building

/-! ## Documents -/

namespace Document

/-- The offset of the first byte from `offset` on that is no white space
of ASCII. -/
def skipSpace (bytes : ByteArray) (offset : Nat) : Nat :=
  if h : offset < bytes.size then
    let b := bytes[offset]
    if b = 0x20 ∨ b = 0x09 ∨ b = 0x0A ∨ b = 0x0C ∨ b = 0x0D then
      skipSpace bytes (offset + 1)
    else offset
  else offset
  termination_by bytes.size - offset

/-- Where the tag begins before which the reader stood at `mark`. -/
def tagPosition (bytes : ByteArray) (lines : LineIndex) (mark : Nat) : Position :=
  lines.position (skipSpace bytes mark)

/-- The tree that the events build. -/
def build (limits : Limits) (positionOf : Nat → Position) (events : List Marked) :
    Except Error Building :=
  events.foldlM (Building.step limits positionOf) .start

/-- Reads a document: its root element, or none if there is no element.
Of several elements that are in no other, the last one counts. -/
def parse (limits : Limits) (xml : String) : Except Error (Option Element) := do
  let bytes := xml.toUTF8
  (limits.check .size bytes.size).mapError .limit
  let lines := LineIndex.of xml.toList
  let scan := Markup.scan xml.toList
  let built ← build limits (tagPosition bytes lines) scan.events
  match scan.fault with
  | some (offset, f) => throw (.xml (.markup (lines.position offset) f))
  | none =>
    if built.opened.isEmpty then return built.root else throw (.xml .unclosedElement)

end Document

end Wsdl.Xml
