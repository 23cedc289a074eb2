-- Texts as bytes in UTF-8: how long a text is, what its bytes are, and
-- what text the bytes stand for when some of them are out of place.

namespace Wsdl.Text

/-! ## From text to bytes -/

/-- The number of bytes of the characters. -/
def byteLength : List Char → Nat
  | [] => 0
  | c :: cs => c.utf8Size + byteLength cs

@[simp] theorem byteLength_nil : byteLength [] = 0 := rfl

@[simp] theorem byteLength_cons (c : Char) (cs : List Char) :
    byteLength (c :: cs) = c.utf8Size + byteLength cs := rfl

theorem byteLength_append (cs ds : List Char) :
    byteLength (cs ++ ds) = byteLength cs + byteLength ds := by
  induction cs with
  | nil => simp
  | cons c cs ih => simp only [List.cons_append, byteLength_cons, ih, Nat.add_assoc]

/-- The bytes of the characters. -/
def encode (cs : List Char) : List UInt8 := cs.flatMap String.utf8EncodeChar

def encodeText (s : String) : List UInt8 := encode s.toList

/-- The first byte of a character, read as a character of its own. -/
def firstByte (c : Char) : Char :=
  match String.utf8EncodeChar c with
  | b :: _ => Char.ofNat b.toNat
  | [] => c

/-! ## From bytes to text -/

/-- The bytes that may follow a lead byte: how many, and the range of the
first of them. The others are 80 to BF. -/
def followers (b : UInt8) : Option (Nat × UInt8 × UInt8) :=
  if 0xC2 ≤ b && b ≤ 0xDF then some (1, 0x80, 0xBF)
  else if b == 0xE0 then some (2, 0xA0, 0xBF)
  else if b == 0xED then some (2, 0x80, 0x9F)
  else if 0xE1 ≤ b && b ≤ 0xEF then some (2, 0x80, 0xBF)
  else if b == 0xF0 then some (3, 0x90, 0xBF)
  else if 0xF1 ≤ b && b ≤ 0xF3 then some (3, 0x80, 0xBF)
  else if b == 0xF4 then some (3, 0x80, 0x8F)
  else none

/-- The bits that a lead byte adds to the code point. -/
def leadBits (b : UInt8) : Nat :=
  if b < 0xE0 then b.toNat % 32 else if b < 0xF0 then b.toNat % 16 else b.toNat % 8

/-- Reads up to `n` following bytes, the first one within `lo` and `hi`:
the code point if all are there, and how many were read. -/
def readFollowers (code : Nat) : Nat → UInt8 → UInt8 → List UInt8 → Option Nat × Nat
  | 0, _, _, _ => (some code, 0)
  | _ + 1, _, _, [] => (none, 0)
  | n + 1, lo, hi, b :: bs =>
    if lo ≤ b && b ≤ hi then
      let (c, k) := readFollowers (code * 64 + b.toNat % 64) n 0x80 0xBF bs
      (c, k + 1)
    else (none, 0)

/-- The first character of the bytes and how many bytes after the first
belong to it; none if they are out of place. -/
def decodeFirst (b : UInt8) (bs : List UInt8) : Option Char × Nat :=
  if b < 0x80 then (some (Char.ofNat b.toNat), 0)
  else
    match followers b with
    | none => (none, 0)
    | some (n, lo, hi) =>
      let (code, k) := readFollowers (leadBits b) n lo hi bs
      (code.map Char.ofNat, k)

/-- The characters of the bytes, with none for each run that is no
character. -/
def decodeAll : List UInt8 → List (Option Char)
  | [] => []
  | b :: bs =>
    (decodeFirst b bs).1 :: decodeAll (bs.drop (decodeFirst b bs).2)
  termination_by bs => bs.length
  decreasing_by simp only [List.length_drop, List.length_cons]; omega

/-- The text of the bytes, with U+FFFD for what is no character. -/
def decodeLossy (bs : List UInt8) : List Char := (decodeAll bs).map (·.getD '\ufffd')

/-- The text of the bytes, if all of them are in place. -/
def decode? (bs : List UInt8) : Option (List Char) := (decodeAll bs).mapM id

end Wsdl.Text
