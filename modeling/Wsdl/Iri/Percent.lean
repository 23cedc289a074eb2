-- Percent escapes. A character that may not stand in a part of an IRI is
-- written as its bytes, each as a percent sign and two digits.
import Wsdl.Text.Utf8

namespace Wsdl.Iri

/-! ## What is escaped -/

/-- A set of ASCII characters. -/
abbrev CharSet := Char → Bool

/-- The set with more characters in it. -/
def CharSet.with (s : CharSet) (more : String) : CharSet := fun c => s c || more.toList.contains c

/-- Controls, and everything that is not ASCII. -/
def controlSet : CharSet := fun c => c.toNat < 0x20 || 0x7F ≤ c.toNat

def fragmentSet : CharSet := controlSet.with " \"<>\x60"

def querySet : CharSet := controlSet.with " \"#<>"

/-- The query of a scheme whose IRIs all have hosts. -/
def specialQuerySet : CharSet := querySet.with "'"

def pathSet : CharSet := fragmentSet.with "#?\x7b\x7d"

/-- The names in a path that is no IRI yet. -/
def segmentSet : CharSet := pathSet.with "/%\\"

def userSet : CharSet := pathSet.with "/:;=@[\\]^|"

/-! ## Escapes -/

/-- A hexadecimal digit, in upper case. -/
def hexDigit (n : Nat) : Char := if n < 10 then Char.ofNat (0x30 + n) else Char.ofNat (0x37 + n)

def escapeByte (b : UInt8) : List Char :=
  ['%', hexDigit (b.toNat / 16), hexDigit (b.toNat % 16)]

/-- The characters with those of the set escaped. -/
def escape (s : CharSet) (cs : List Char) : List Char :=
  cs.flatMap fun c => if s c then (String.utf8EncodeChar c).flatMap escapeByte else [c]

/-- The bytes with those escaped that are no ASCII characters outside of
the set. -/
def escapeBytes (s : CharSet) (bs : List UInt8) : List Char :=
  bs.flatMap fun b =>
    if b < 0x80 && !s (Char.ofNat b.toNat) then [Char.ofNat b.toNat] else escapeByte b

/-- The value of a hexadecimal digit of either case. -/
def hexValue? (c : Char) : Option Nat :=
  let n := c.toNat
  if 0x30 ≤ n && n ≤ 0x39 then some (n - 0x30)
  else if 0x41 ≤ n && n ≤ 0x46 then some (n - 0x37)
  else if 0x61 ≤ n && n ≤ 0x66 then some (n - 0x57)
  else none

/-- The byte that two digits write. -/
def hexByte? (a b : Char) : Option UInt8 :=
  match hexValue? a, hexValue? b with
  | some x, some y => some (UInt8.ofNat (x * 16 + y))
  | _, _ => none

/-- The bytes of a text with its escapes taken for the bytes they write. A
percent sign without two digits stands for itself. -/
def unescape (cs : List Char) : List UInt8 :=
  match cs with
  | [] => []
  | '%' :: a :: b :: rest =>
    match hexByte? a b with
    | some x => x :: unescape rest
    | none => 0x25 :: unescape (a :: b :: rest)
  | c :: rest => String.utf8EncodeChar c ++ unescape rest
  termination_by cs.length

end Wsdl.Iri
