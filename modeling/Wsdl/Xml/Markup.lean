-- The markup of a document as a sequence of events: tags, character data
-- and the rest. Offsets count bytes; a byte order mark in front counts
-- for nothing.
import Wsdl.Text.Blank
import Wsdl.Text.Utf8

namespace Wsdl.Xml

/-- A start tag: its name, and what stands between the name and the end of
the tag. -/
structure Tag where
  name : List Char
  afterName : List Char
  deriving DecidableEq, Repr

/-- One piece of a document. -/
inductive Event where
  | start (tag : Tag)
  /-- A tag that starts and ends an element. -/
  | empty (tag : Tag)
  | close
  /-- Character data, references unresolved, without spaces around it. -/
  | text (raw : List Char)
  /-- The content of a CDATA section. -/
  | cdata (content : List Char)
  /-- A comment, a declaration or an instruction. -/
  | other
  deriving DecidableEq, Repr

/-- An event and the offset at which the reader stood before it. -/
structure Marked where
  mark : Nat
  event : Event
  deriving DecidableEq, Repr

namespace Markup

/-! ## Faults -/

/-- What may end too early. -/
inductive Construct where
  | bang
  | cdata
  | comment
  | doctype
  | instruction
  deriving DecidableEq, Repr

def Construct.text : Construct → String
  | bang => "Bang"
  | cdata => "CData"
  | comment => "Comment"
  | doctype => "DOCTYPE"
  | instruction => "XmlDecl"

/-- Why markup is refused. -/
inductive Fault where
  | unfinished (c : Construct)
  /-- A character that nothing starts with. -/
  | unknownBang (c : Char)
  | emptyDoctype
  /-- An end tag that does not close the element that is open. -/
  | mismatch (expected found : List Char)
  deriving DecidableEq, Repr

def Fault.message : Fault → String
  | unfinished c => "Unexpected EOF during reading " ++ c.text
  | unknownBang c =>
    "Only Comment (`--`), CDATA (`[CDATA[`) and DOCTYPE (`DOCTYPE`) nodes can start with a '!', "
      ++ "but symbol `" ++ (Text.firstByte c).toString ++ "` found"
  | emptyDoctype => "DOCTYPE declaration must not be empty"
  | mismatch expected found =>
    "Expecting </" ++ String.ofList expected ++ "> found </" ++ String.ofList found ++ ">"

/-! ## Where a construct ends -/

/-- The characters before the first greater-than sign that satisfies
`closes`, given the characters before it in reverse, and those after it. -/
def cutAtClose (closes : List Char → Bool) (before : List Char) :
    List Char → Option (List Char × List Char)
  | [] => none
  | c :: cs =>
    if c == '>' && closes before then some (before.reverse, cs)
    else cutAtClose closes (c :: before) cs

theorem length_of_cutAtClose {closes : List Char → Bool} {before cs a b : List Char}
    (h : cutAtClose closes before cs = some (a, b)) : b.length < cs.length := by
  induction cs generalizing before with
  | nil => simp [cutAtClose] at h
  | cons c cs ih =>
    unfold cutAtClose at h
    split at h
    · obtain ⟨-, rfl⟩ := Prod.mk.inj (Option.some.inj h)
      simp
    · have := ih h
      simp only [List.length_cons]
      omega

/-- A CDATA section ends behind two closing brackets. -/
def closesCdata : List Char → Bool
  | ']' :: ']' :: _ => true
  | _ => false

/-- A comment ends behind two dashes, of which none opened it. -/
def closesComment (before : List Char) : Bool :=
  match before with
  | '-' :: '-' :: _ => 3 < Text.byteLength before
  | _ => false

/-- A document type ends where as many were opened as were closed. -/
def closesDoctype (before : List Char) : Bool :=
  before.count '<' == before.count '>'

/-- What is inside quotes, if anything. -/
inductive Quoting where
  | none
  | single
  | double
  deriving DecidableEq, Repr

/-- The quoting behind a character. -/
def Quoting.next : Quoting → Char → Quoting
  | .none, '\'' => .single
  | .none, '"' => .double
  | .single, '\'' => .none
  | .double, '"' => .none
  | q, _ => q

/-- The characters of a tag up to the greater-than sign that ends it, and
those after that if there is one. -/
def cutTag (q : Quoting) : List Char → List Char × Option (List Char)
  | [] => ([], none)
  | c :: cs =>
    if c = '>' ∧ q = .none then ([], some cs)
    else
      let (a, b) := cutTag (q.next c) cs
      (c :: a, b)

theorem length_of_cutTag {q : Quoting} {cs a b : List Char} (h : cutTag q cs = (a, some b)) :
    b.length < cs.length := by
  induction cs generalizing q a with
  | nil => simp [cutTag] at h
  | cons c cs ih =>
    unfold cutTag at h
    split at h
    · obtain ⟨-, h2⟩ := Prod.mk.inj h
      obtain rfl := Option.some.inj h2
      simp
    · have h2 := (Prod.mk.inj h).2
      have := ih (q := q.next c) (a := (cutTag (q.next c) cs).1) (Prod.ext rfl h2)
      simp only [List.length_cons]
      omega

/-! ## One construct -/

/-- What stands behind a less-than sign, when `cs` is what follows it: the
end, a fault and its offset, or an event. With an event come the names of
the elements that are open after it, the offset after it, and the rest. -/
inductive Found (cs : List Char) where
  | nothing
  | fault (offset : Nat) (f : Fault)
  | event (e : Event) (opened : List (List Char)) (offset : Nat) (rest : List Char)
      (noLonger : rest.length ≤ cs.length)

/-- The lower-case form of an ASCII letter. -/
def lower (cs : List Char) : List Char := cs.map Char.toLower

/-- Whether the characters start with a word, in any case. -/
def startsWithWord (word : String) (cs : List Char) : Bool :=
  lower (cs.take word.toList.length) == lower word.toList

/-- What a section of a kind means, once it is read up to its end: an
event, or a fault if it is not what it seemed to be. -/
def classify (k : Construct) (content : List Char) : Except Fault Event :=
  match k with
  | .cdata =>
    if startsWithWord "[CDATA[" content then
      .ok (.cdata ((content.drop 7).take (content.length - 9)))
    else .error (.unfinished .cdata)
  | .comment =>
    if startsWithWord "--" content then .ok .other else .error (.unfinished .comment)
  | .doctype =>
    if startsWithWord "DOCTYPE" content then
      if (content.drop 7).all Text.isXmlSpace then .error .emptyDoctype else .ok .other
    else .error (.unfinished .doctype)
  | k => .error (.unfinished k)

/-- Reads a construct that starts with an exclamation mark. The offset is
that of the mark, and `cs` is what follows it. -/
def findBang (opened : List (List Char)) (offset : Nat) (all cs : List Char)
    (hall : cs.length < all.length) : Found all :=
  let piece (k : Construct) (closes : List Char → Bool) : Found all :=
    match h : cutAtClose closes [] cs with
    | none => .fault offset (.unfinished k)
    | some (content, rest) =>
      let after := offset + 1 + Text.byteLength content + 1
      match classify k content with
      | .ok e => .event e opened after rest (by
          have := length_of_cutAtClose h
          omega)
      | .error f => .fault after f
  match cs with
  | [] => .fault offset (.unfinished .bang)
  | '[' :: _ => piece .cdata closesCdata
  | '-' :: _ => piece .comment closesComment
  | 'D' :: _ => piece .doctype closesDoctype
  | 'd' :: _ => piece .doctype closesDoctype
  | c :: _ => .fault offset (.unknownBang c)

/-- The characters up to the first greater-than sign, how many bytes are
read to get past it, and the rest. -/
def cutAtGreater (cs : List Char) : List Char × Nat × List Char :=
  let content := cs.takeWhile (· ≠ '>')
  match cs.dropWhile (· ≠ '>') with
  | [] => (content, Text.byteLength content, [])
  | _ :: rest => (content, Text.byteLength content + 1, rest)

theorem length_cutAtGreater (cs : List Char) : (cutAtGreater cs).2.2.length ≤ cs.length := by
  unfold cutAtGreater
  have h := (List.dropWhile_sublist (fun c : Char => decide (c ≠ '>')) (l := cs)).length_le
  split
  · simp
  · rename_i heq
    rw [heq] at h
    simp only [List.length_cons] at h
    simp only
    omega

/-- The name in an end tag: spaces behind it do not belong to it. -/
def closingName (content : List Char) : List Char :=
  if content.all Text.isXmlSpace then content else Text.dropRight Text.isXmlSpace content

/-- Reads an end tag. `cs` starts with its slash. -/
def findClose (opened : List (List Char)) (offset : Nat) (cs : List Char) : Found cs :=
  let (content, read, _) := cutAtGreater cs
  let back := offset + read - Text.byteLength content
  match opened with
  | [] => .fault back (.mismatch [] (content.drop 1))
  | name :: others =>
    if closingName (content.drop 1) = name then
      .event .close others (offset + read) (cutAtGreater cs).2.2 (length_cutAtGreater cs)
    else .fault back (.mismatch name (closingName (content.drop 1)))

/-- Reads an instruction. `cs` starts with its question mark. -/
def findInstruction (opened : List (List Char)) (offset : Nat) (cs : List Char) : Found cs :=
  let (content, read, _) := cutAtGreater cs
  if 2 < Text.byteLength content ∧ content.getLast? = some '?' then
    .event .other opened (offset + read) (cutAtGreater cs).2.2 (length_cutAtGreater cs)
  else .fault (offset + read - Text.byteLength content) (.unfinished .instruction)

/-- Splits the content of a tag behind its name. -/
def tagOf (content : List Char) : Tag :=
  ⟨content.takeWhile (! Text.isXmlSpace ·), content.dropWhile (! Text.isXmlSpace ·)⟩

/-- Reads a tag that starts an element. A tag without an end takes what
there is, and the offset stays. -/
def findTag (opened : List (List Char)) (offset : Nat) (cs : List Char) : Found cs :=
  match h : cutTag .none cs with
  | (content, rest?) =>
    let after := match rest? with
      | some _ => offset + Text.byteLength content + 1
      | none => offset
    have hle : (rest?.getD []).length ≤ cs.length := by
      cases rest? with
      | none => simp
      | some r => exact Nat.le_of_lt (length_of_cutTag h)
    if content.getLast? = some '/' then
      .event (.empty (tagOf content.dropLast)) opened after (rest?.getD []) hle
    else
      .event (.start (tagOf content)) ((tagOf content).name :: opened) after (rest?.getD []) hle

/-- Reads what stands behind a less-than sign. -/
def find (opened : List (List Char)) (offset : Nat) (cs : List Char) : Found cs :=
  match cs with
  | [] => .nothing
  | '!' :: tail => findBang opened offset ('!' :: tail) tail (by simp)
  | '/' :: tail => findClose opened offset ('/' :: tail)
  | '?' :: tail => findInstruction opened offset ('?' :: tail)
  | c :: tail => findTag opened offset (c :: tail)

/-! ## The whole document -/

/-- The events up to the first fault, and the fault if there is one, with
the offset at which it is noticed. -/
structure Scan where
  events : List Marked
  fault : Option (Nat × Fault)
  deriving DecidableEq, Repr

namespace Scan

def nothing : Scan := ⟨[], none⟩

def stop (offset : Nat) (f : Fault) : Scan := ⟨[], some (offset, f)⟩

/-- The scan with an event in front. -/
def push (m : Marked) (s : Scan) : Scan := ⟨m :: s.events, s.fault⟩

end Scan

/-- The events of the characters from an offset on, when the elements with
the names `opened` are open, innermost first. -/
def scanFrom (opened : List (List Char)) (offset : Nat) (cs : List Char) : Scan :=
  let blank := cs.takeWhile Text.isXmlSpace
  let here := offset + Text.byteLength blank
  let text := (cs.dropWhile Text.isXmlSpace).takeWhile (· ≠ '<')
  match _hr : (cs.dropWhile Text.isXmlSpace).dropWhile (· ≠ '<') with
  | [] => if text.isEmpty then .nothing else .push ⟨offset, .text (trimmed text)⟩ .nothing
  | _ :: tail =>
    let there := here + Text.byteLength text
    let markup := match find opened (there + 1) tail with
      | .nothing => .nothing
      | .fault o f => .stop o f
      | .event e inside o rest _ =>
        (scanFrom inside o rest).push ⟨if text.isEmpty then offset else there, e⟩
    if text.isEmpty then markup else markup.push ⟨offset, .text (trimmed text)⟩
  termination_by cs.length
  decreasing_by
    have h1 := (List.dropWhile_sublist Text.isXmlSpace (l := cs)).length_le
    have h2 := (List.dropWhile_sublist (fun c : Char => decide (c ≠ '<'))
      (l := cs.dropWhile Text.isXmlSpace)).length_le
    rw [_hr] at h2
    simp only [List.length_cons] at h2
    omega
where
  /-- Character data without the spaces behind it. -/
  trimmed (raw : List Char) : List Char := Text.dropRight Text.isXmlSpace raw

/-- The characters without a byte order mark in front. -/
def withoutMark : List Char → List Char
  | '\ufeff' :: cs => cs
  | cs => cs

/-- The events of a document. -/
def scan (cs : List Char) : Scan := scanFrom [] 0 (withoutMark cs)

end Markup

end Wsdl.Xml
