-- Domain names. A name is brought to its form in ASCII: each character is
-- mapped, the whole is normalized, and labels that are not ASCII are
-- written in Punycode. What the mapping cannot make of a name is refused.
import Wsdl.Iri.DomainTable
import Wsdl.Iri.Punycode
import Wsdl.Text.BidiClass
import Wsdl.Text.Joining
import Wsdl.Text.Mark
import Wsdl.Text.NormalForm

namespace Wsdl.Iri.Domain

open Text

/-! ## Characters -/

/-- The ASCII characters that no domain name may hold. -/
def isForbidden (c : Char) : Bool :=
  c.toNat ≤ 0x20 || c.toNat == 0x7F || "%#/:<>?@[\\]^|".toList.contains c

/-- Whether the mapping leaves a character as it is. -/
def isSettled (c : Char) : Bool := mapDomainChar c == some [c]

/-- The name with its characters mapped, in normal form. -/
def mapped? (name : List Char) : Option (List Char) :=
  (name.mapM mapDomainChar).map fun parts => normalize parts.flatten

/-! ## Joiners -/

/-- Whether the first character that is not transparent joins on the
given side. -/
def joins (side : Joining) (cs : List Char) : Bool :=
  match cs.dropWhile (joining · == .transparent) with
  | [] => false
  | c :: _ => joining c == side || joining c == .dual

/-- The class of the signs that take the vowel from a letter. -/
def viramaClass : Nat := 9

/-- Whether every joiner stands where it changes how the text looks.
`before` holds what stands before, last character first. -/
def joinersFit (before : List Char) : List Char → Bool
  | [] => true
  | c :: cs =>
    let afterVirama := match before with | b :: _ => classOf b == viramaClass | [] => false
    let fits :=
      if c == '\u200c' then afterVirama || (joins .left before && joins .right cs)
      else if c == '\u200d' then afterVirama
      else true
    fits && joinersFit (c :: before) cs

/-! ## Direction -/

/-- Whether the label has characters written from right to left. -/
def hasRightToLeft (label : List Char) : Bool :=
  label.any fun c =>
    let k := bidiClass c
    k == .right || k == .arabicLetter || k == .arabicNumber

/-- The classes that may stand in a label of either direction. -/
def isNeutral (k : BidiClass) : Bool :=
  [.europeanNumber, .europeanSeparator, .europeanTerminator, .commonSeparator, .boundaryNeutral,
    .otherNeutral, .mark].contains k

/-- Whether the characters of a label agree on one direction. -/
def directionFits (label : List Char) : Bool :=
  let kinds := label.map bidiClass
  let last := (kinds.reverse.dropWhile (· == .mark)).head?
  match kinds with
  | [] => true
  | first :: _ =>
    if first == .right || first == .arabicLetter then
      kinds.all (fun k => isNeutral k || [.right, .arabicLetter, .arabicNumber].contains k)
        && (last.map [.right, .arabicLetter, .europeanNumber, .arabicNumber].contains).getD false
        && !(kinds.contains .europeanNumber && kinds.contains .arabicNumber)
    else if first == .left then
      kinds.all (fun k => isNeutral k || k == .left)
        && (last.map [.left, .europeanNumber].contains).getD false
    else false

/-! ## Labels -/

/-- The start of a label that is written in Punycode. -/
def codePrefix : List Char := ['x', 'n', '-', '-']

/-- What a label stands for: itself, or what its Punycode says. Punycode
for a label that is ASCII, or not in normal form, is refused. -/
def labelMeaning? (label : List Char) : Option (List Char) :=
  if codePrefix.isPrefixOf label then
    (Punycode.decode? (label.drop codePrefix.length)).filter fun m =>
      !m.all Punycode.isAscii && normalize m == m
  else some label

/-- Whether the label can be written in ASCII: it is ASCII, or not too long
for Punycode. -/
def isWritable (label : List Char) : Bool :=
  label.all Punycode.isAscii || label.length ≤ Punycode.writeLimit

/-- Whether the characters of a label may stand together. -/
def isFit (label : List Char) : Bool :=
  isWritable label && label.all isSettled && !(label.head?.map isMark).getD false
    && joinersFit [] label

/-- A label in ASCII. -/
def labelText (label : List Char) : List Char :=
  if label.all Punycode.isAscii then label else codePrefix ++ Punycode.encode label

/-! ## Names -/

/-- The labels of a name with dots between. -/
def joinLabels (labels : List (List Char)) : List Char := ['.'].intercalate labels

/-- The form of a domain name in ASCII; none if it has no such form. -/
def toAscii? (name : List Char) : Option (List Char) := do
  let mapped ← mapped? name
  let labels := splitWhere (· == '.') mapped
  let meanings ← labels.mapM labelMeaning?
  let directed := meanings.any hasRightToLeft
  if !mapped.any isForbidden && meanings.all isFit && (!directed || meanings.all directionFits)
  then some (joinLabels (labels.map labelText))
  else none

end Wsdl.Iri.Domain
