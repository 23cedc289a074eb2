-- The attributes of a start tag as they are written: a key, an equals
-- sign, and a value in quotes.
import Wsdl.Text.Blank
import Wsdl.Text.Utf8

namespace Wsdl.Xml

/-- An attribute as written, its value without the quotes. -/
structure RawAttribute where
  key : List Char
  value : List Char
  deriving DecidableEq, Repr

namespace Attribute

/-- Why attributes are refused. Offsets count bytes from the start of the
tag's name. -/
inductive Fault where
  /-- Something else where the equals sign should be. -/
  | equalsExpected (offset : Nat)
  /-- Nothing after the equals sign. -/
  | valueExpected (offset : Nat)
  | unquoted (offset : Nat)
  /-- A value whose closing quote is missing. -/
  | unclosed (offset : Nat) (quote : Char)
  /-- A key that was given before. -/
  | duplicate (offset before : Nat)
  deriving DecidableEq, Repr

namespace Fault

def message : Fault → String
  | equalsExpected p =>
    "position " ++ toString p ++ ": attribute key must be directly followed by `=` or space"
  | valueExpected p =>
    "position " ++ toString p ++ ": `=` must be followed by an attribute value"
  | unquoted p =>
    "position " ++ toString p
      ++ ": attribute value must be enclosed in `\"` or `'`"
  | unclosed p q =>
    "position " ++ toString p ++ ": missing closing quote `" ++ q.toString
      ++ "` in attribute value"
  | duplicate p before =>
    "position " ++ toString p ++ ": duplicated attribute, previous declaration at position "
      ++ toString before

end Fault

/-- The attributes up to the first fault, and the fault if there is one. -/
structure Scan where
  attributes : List RawAttribute
  fault : Option Fault
  deriving DecidableEq, Repr

namespace Scan

def stop (f : Fault) : Scan := ⟨[], some f⟩

/-- The scan with an attribute in front. -/
def push (a : RawAttribute) (s : Scan) : Scan := ⟨a :: s.attributes, s.fault⟩

end Scan

/-- What the search for one attribute finds in the characters `cs`. -/
inductive Found (cs : List Char) where
  | nothing
  | fault (f : Fault)
  /-- An attribute: where its key starts, where the rest starts, and the
  rest, which is shorter. -/
  | one (start : Nat) (a : RawAttribute) (next : Nat) (rest : List Char)
      (shorter : rest.length < cs.length)

/-- The characters from the first one that is not a space, and where that
is. -/
def skipSpace (offset : Nat) (cs : List Char) : Nat × List Char :=
  (offset + Text.byteLength (cs.takeWhile Text.isXmlSpace), cs.dropWhile Text.isXmlSpace)

/-- Whether a character ends a key. -/
def endsKey (c : Char) : Bool := c == '=' || Text.isXmlSpace c

theorem length_dropWhile_le {p : Char → Bool} (cs : List Char) :
    (cs.dropWhile p).length ≤ cs.length := (List.dropWhile_sublist p).length_le

/-- Looks for the value behind an equals sign. The key starts at `start`,
and `before` holds the earlier keys with their starts. -/
def findValue (cs : List Char) (before : List (List Char × Nat)) (start : Nat) (key : List Char)
    (offset : Nat) (rest : List Char) (h : rest.length < cs.length) : Found cs :=
  match before.lookup key with
  | some p => .fault (.duplicate start p)
  | none =>
    let opening := (skipSpace offset rest).1
    match hr : (skipSpace offset rest).2 with
    | [] => .fault (.valueExpected opening)
    | q :: body =>
      if q = '"' ∨ q = '\'' then
        let value := body.takeWhile (· ≠ q)
        let stop := opening + 1 + Text.byteLength value
        match hb : body.dropWhile (· ≠ q) with
        | [] => .fault (.unclosed stop q)
        | _ :: after =>
          .one start ⟨key, value⟩ (stop + 1) after (by
            have h1 := length_dropWhile_le (p := Text.isXmlSpace) rest
            have h2 := length_dropWhile_le (p := fun c => decide (c ≠ q)) body
            simp only [skipSpace] at hr
            rw [hr] at h1
            rw [hb] at h2
            simp only [List.length_cons] at h1 h2
            omega)
      else .fault (.unquoted opening)

/-- Looks for the next attribute. -/
def findNext (before : List (List Char × Nat)) (offset : Nat) (cs : List Char) : Found cs :=
  let start := (skipSpace offset cs).1
  match hs : (skipSpace offset cs).2 with
  | [] => .nothing
  | c :: tail =>
    let key := c :: tail.takeWhile (! endsKey ·)
    let stop := start + Text.byteLength key
    match ha : (skipSpace stop (tail.dropWhile (! endsKey ·))).2 with
    | '=' :: rest =>
      findValue cs before start key
        ((skipSpace stop (tail.dropWhile (! endsKey ·))).1 + 1) rest (by
          have h1 := length_dropWhile_le (p := Text.isXmlSpace) cs
          have h2 := length_dropWhile_le (p := fun c => ! endsKey c) tail
          have h3 := length_dropWhile_le (p := Text.isXmlSpace)
            (tail.dropWhile fun c => ! endsKey c)
          simp only [skipSpace] at hs ha
          rw [hs] at h1
          rw [ha] at h3
          simp only [List.length_cons] at h1 h3
          omega)
    | _ => .fault (.equalsExpected (skipSpace stop (tail.dropWhile (! endsKey ·))).1)

/-- All attributes. `before` holds the keys that were given before, with
their starts. -/
def scanFrom (before : List (List Char × Nat)) (offset : Nat) (cs : List Char) : Scan :=
  match findNext before offset cs with
  | .nothing => ⟨[], none⟩
  | .fault f => .stop f
  | .one start a next rest _ => (scanFrom ((a.key, start) :: before) next rest).push a
  termination_by cs.length

/-- The attributes in the content of a tag whose name is `name`. -/
def scan (name : List Char) (afterName : List Char) : Scan :=
  scanFrom [] (Text.byteLength name) afterName

end Attribute

end Wsdl.Xml
