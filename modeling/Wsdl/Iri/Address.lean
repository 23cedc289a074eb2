-- Numeric hosts: addresses of four bytes, written as numbers with points
-- between, and addresses of eight groups, written with colons.
import Wsdl.Iri.Percent
import Wsdl.Text.Blank

namespace Wsdl.Iri

open Text

/-! ## Numbers -/

def decimalValue? (c : Char) : Option Nat := (hexValue? c).filter (· < 10)

def octalValue? (c : Char) : Option Nat := (hexValue? c).filter (· < 8)

/-- More than any number in an address or port may be. -/
def tooLarge : Nat := 0x100000000

/-- The number that digits of a base write; none if one of them is no
digit. No digits write 0. All that is too large is read as one number. -/
def readDigits? (value? : Char → Option Nat) (base : Nat) (cs : List Char) : Option Nat :=
  cs.foldlM (fun n c => (value? c).map fun d => min (n * base + d) tooLarge) 0

namespace Ipv4

/-- A number as it may stand in an address: hexadecimal after 0x, octal
after 0, otherwise decimal. -/
def number? (cs : List Char) : Option Nat :=
  match cs with
  | [] => none
  | '0' :: 'x' :: ds => readDigits? hexValue? 16 ds
  | '0' :: 'X' :: ds => readDigits? hexValue? 16 ds
  | '0' :: d :: ds => readDigits? octalValue? 8 (d :: ds)
  | ds => readDigits? decimalValue? 10 ds

/-- The parts between points, without an empty one at the end. -/
def parts (cs : List Char) : List (List Char) :=
  let ps := splitWhere (· == '.') cs
  if ps.getLast? == some [] then ps.dropLast else ps

/-- Whether a host has to be such an address, because its last part is a
number. -/
def isMeant (cs : List Char) : Bool :=
  match (parts cs).getLast? with
  | some p => (!p.isEmpty && p.all fun c => (decimalValue? c).isSome) || (number? p).isSome
  | none => false

/-- The value of an address: every number but the last is one byte, and
the last fills what is left. -/
def ofNumbers? : List Nat → Nat → Option Nat
  | [], _ => none
  | [n], room => if n < Nat.pow 256 room then some n else none
  | n :: ns, room =>
    if n < 256 then (ofNumbers? ns (room - 1)).map (n * Nat.pow 256 (room - 1) + ·) else none

/-- The address that a host writes. -/
def read? (cs : List Char) : Option Nat := do
  let ps := parts cs
  if 4 < ps.length then none
  else ofNumbers? (← ps.mapM number?) 4

/-- The address in its usual form, four numbers with points between. -/
def text (n : Nat) : List Char :=
  ['.'].intercalate
    ([n / 0x1000000, n / 0x10000 % 256, n / 256 % 256, n % 256].map fun b => (toString b).toList)

end Ipv4

namespace Ipv6

/-- The text before two colons in a row and the text after them. -/
def cutAtGap : List Char → Option (List Char × List Char)
  | ':' :: ':' :: cs => some ([], cs)
  | c :: cs => (cutAtGap cs).map fun (a, b) => (c :: a, b)
  | [] => none

/-- A group of up to four hexadecimal digits. -/
def group? (cs : List Char) : Option Nat :=
  if cs.isEmpty || 4 < cs.length then none else readDigits? hexValue? 16 cs

/-- A byte in decimal, without needless zeros. -/
def byte? (cs : List Char) : Option Nat :=
  match cs with
  | [] => none
  | '0' :: _ :: _ => none
  | ds => (readDigits? decimalValue? 10 ds).filter (· < 256)

/-- Two groups written as four bytes. -/
def bytePair? (cs : List Char) : Option (List Nat) :=
  match (splitWhere (· == '.') cs).mapM byte? with
  | some [a, b, c, d] => some [a * 256 + b, c * 256 + d]
  | _ => none

/-- The groups between colons; the last two may be written as bytes. -/
def groups? (bytesMayEnd : Bool) : List (List Char) → Option (List Nat)
  | [] => some []
  | [p] =>
    if bytesMayEnd && p.contains '.' then bytePair? p else (group? p).map ([·])
  | p :: ps => do
    let g ← group? p
    return g :: (← groups? bytesMayEnd ps)

/-- The groups of one side of a gap. -/
def side? (bytesMayEnd : Bool) (cs : List Char) : Option (List Nat) :=
  if cs.isEmpty then some [] else groups? bytesMayEnd (splitWhere (· == ':') cs)

/-- The eight groups of an address. A gap stands for one or more groups
of zero. -/
def read? (cs : List Char) : Option (List Nat) :=
  match cutAtGap cs with
  | some (a, b) => do
    let x ← side? false a
    let y ← side? true b
    let n := x.length + y.length
    if n < 8 then some (x ++ List.replicate (8 - n) 0 ++ y) else none
  | none => (side? true cs).filter (·.length == 8)

/-- The length of the run of zeros at the front. -/
def zeros (gs : List Nat) : Nat := (gs.takeWhile (· == 0)).length

/-- The place and the length of the first of the longest runs of zeros. -/
def longestRun : List Nat → Nat × Nat
  | [] => (0, 0)
  | g :: gs =>
    let here := zeros (g :: gs)
    let (place, length) := longestRun gs
    if length ≤ here then (0, here) else (place + 1, length)

def groupTexts (gs : List Nat) : List Char :=
  [':'].intercalate (gs.map (Nat.toDigits 16))

/-- The address in its usual form: the longest run of zeros, if there is
more than one, is left out. -/
def text (gs : List Nat) : List Char :=
  let (place, length) := longestRun gs
  if length < 2 then groupTexts gs
  else groupTexts (gs.take place) ++ [':', ':'] ++ groupTexts (gs.drop (place + length))

end Ipv6

end Wsdl.Iri
