-- Punycode: a label in letters, digits and hyphens for a label in any
-- characters. The ASCII characters come first; the others follow as a
-- list of numbers, each telling how far to go from the last insertion.
import Wsdl.Text.Blank

namespace Wsdl.Iri.Punycode

/-! ## Digits -/

/-- The digits are the letters and then the figures. -/
def digit (n : Nat) : Char := if n < 26 then Char.ofNat (0x61 + n) else Char.ofNat (0x16 + n)

def value? (c : Char) : Option Nat :=
  let n := c.toNat
  if 0x61 ≤ n && n ≤ 0x7A then some (n - 0x61)
  else if 0x41 ≤ n && n ≤ 0x5A then some (n - 0x41)
  else if 0x30 ≤ n && n ≤ 0x39 then some (n - 0x16)
  else none

/-- Digits below the threshold end a number. It depends on the place of
the digit, counted in steps of 36, and on the bias. -/
def threshold (place bias : Nat) : Nat :=
  if place ≤ bias then 1 else if bias + 26 ≤ place then 26 else place - bias

theorem one_le_threshold (place bias : Nat) : 1 ≤ threshold place bias := by
  unfold threshold
  split
  · omega
  · split <;> omega

/-! ## The bias -/

/-- How many times a number is divided by 35 until it is at most 455, and
what is left. -/
def scaleDown (n times : Nat) : Nat × Nat :=
  if _h : 455 < n then scaleDown (n / 35) (times + 1) else (n, times)
  termination_by n
  decreasing_by omega

/-- The bias for the number after `n`, when `count` characters are in
place. -/
def nextBias (n count : Nat) (isFirst : Bool) : Nat :=
  let n := if isFirst then n / 700 else n / 2
  let (rest, times) := scaleDown (n + n / count) 0
  36 * times + 36 * rest / (rest + 38)

/-! ## Writing -/

/-- The digits of a number, the lowest first. -/
def writeNumber (bias place n : Nat) : List Char :=
  let t := threshold place bias
  if n < t then [digit n]
  else digit (t + (n - t) % (36 - t)) :: writeNumber bias (place + 36) ((n - t) / (36 - t))
  termination_by n
  decreasing_by
    have h := one_le_threshold place bias
    exact Nat.lt_of_le_of_lt (Nat.div_le_self _ _) (by omega)

/-- How far the writing of a label is. -/
structure Writer where
  /-- What is written, last character first. -/
  out : List Char
  /-- The steps since the last character that was written. -/
  delta : Nat
  bias : Nat
  /-- How many characters of the label are dealt with. -/
  count : Nat
  isFirst : Bool

/-- Goes past one character of the label while the code point `n` is
written. -/
def Writer.pass (n : Nat) (w : Writer) (c : Char) : Writer :=
  if c.toNat < n then { w with delta := w.delta + 1 }
  else if c.toNat = n then
    ⟨(writeNumber w.bias 36 w.delta).reverse ++ w.out, 0,
      nextBias w.delta (w.count + 1) w.isFirst, w.count + 1, false⟩
  else w

/-- Writes the code points in turn; each time the whole label is passed. -/
def writeAll (label : List Char) (w : Writer) (last : Nat) : List Nat → Writer
  | [] => w
  | n :: ns =>
    let w := { w with delta := w.delta + (n - last) * (w.count + 1) }
    let w := label.foldl (Writer.pass n) w
    writeAll label { w with delta := w.delta + 1 } (n + 1) ns

/-- A list in ascending order, each number once. -/
def insertOnce (n : Nat) : List Nat → List Nat
  | [] => [n]
  | m :: ms => if n < m then n :: m :: ms else if n = m then m :: ms else m :: insertOnce n ms

def isAscii (c : Char) : Bool := c.toNat < 0x80

/-- The Punycode of a label. -/
def encode (label : List Char) : List Char :=
  let basic := label.filter isAscii
  let codes := ((label.filter (! isAscii ·)).map Char.toNat).foldr insertOnce []
  let head := if basic.isEmpty then [] else basic ++ ['-']
  head ++ (writeAll label ⟨[], 0, 72, basic.length, true⟩ 0x80 codes).out.reverse

/-! ## Reading -/

/-- Reads a number: it and what follows. -/
def readNumber (bias : Nat) : Nat → Nat → Nat → List Char → Option (Nat × List Char)
  | _, _, _, [] => none
  | place, weight, n, c :: cs => do
    let d ← value? c
    let t := threshold place bias
    if d < t then return (n + d * weight, cs)
    else readNumber bias (place + 36) (weight * (36 - t)) (n + d * weight) cs

theorem length_readNumber {bias place weight n m : Nat} {cs rest : List Char}
    (h : readNumber bias place weight n cs = some (m, rest)) : rest.length < cs.length := by
  induction cs generalizing place weight n with
  | nil => simp [readNumber] at h
  | cons c cs ih =>
    unfold readNumber at h
    cases hd : value? c with
    | none => simp [hd] at h
    | some d =>
      simp only [hd, Option.bind_eq_bind, Option.bind_some] at h
      split at h
      · simp only [Option.pure_def, Option.some.injEq, Prod.mk.injEq] at h
        simp [← h.2]
      · exact Nat.lt_succ_of_lt (ih h)

/-- Reads the insertions into a label. -/
def readAll (label : List Char) (code position bias : Nat) (isFirst : Bool) (cs : List Char) :
    Option (List Char) :=
  if cs.isEmpty then some label
  else
    match _h : readNumber bias 36 1 0 cs with
    | none => none
    | some (n, rest) =>
      let count := label.length + 1
      let code' := code + (position + n) / count
      let place := (position + n) % count
      if 0x10FFFF < code' ∨ (0xD800 ≤ code' ∧ code' ≤ 0xDFFF) then none
      else
        readAll (label.take place ++ Char.ofNat code' :: label.drop place) code' (place + 1)
          (nextBias n count isFirst) false rest
  termination_by cs.length
  decreasing_by exact length_readNumber _h

/-- The characters before the last hyphen and the ones after it. A hyphen
in front does not count. -/
def cutAtLastHyphen (cs : List Char) : List Char × List Char :=
  match Text.cutAt '-' cs.reverse with
  | some (after, before) => if before.isEmpty then ([], cs) else (before.reverse, after.reverse)
  | none => ([], cs)

/-- No longer Punycode is read. -/
def readLimit : Nat := 2000

/-- No longer label is written in Punycode. -/
def writeLimit : Nat := 1000

/-- The label that a Punycode stands for. -/
def decode? (cs : List Char) : Option (List Char) :=
  let (basic, rest) := cutAtLastHyphen cs
  if cs.length ≤ readLimit && basic.all isAscii then readAll basic 0x80 0 72 true rest else none

end Wsdl.Iri.Punycode
