-- The composed normal form of Unicode: every character decomposed, marks
-- put in order, and pairs composed again as far as they can be.
import Wsdl.Text.CombiningClass
import Wsdl.Text.Composition
import Wsdl.Text.Decomposition

namespace Wsdl.Text

/-! ## Hangul syllables -/

/-- Where the syllables, the leading consonants, the vowels and the
trailing consonants of Hangul begin. The trailing ones are counted from
the code point before the first of them. -/
structure HangulBlock where
  syllables : Nat
  leading : Nat
  vowels : Nat
  trailing : Nat

def hangul : HangulBlock := ⟨0xAC00, 0x1100, 0x1161, 0x11A7⟩

/-- What a Hangul syllable consists of. -/
def decomposeSyllable (index : Nat) : List Char :=
  let l := Char.ofNat (hangul.leading + index / 588)
  let v := Char.ofNat (hangul.vowels + index % 588 / 28)
  if index % 28 = 0 then [l, v] else [l, v, Char.ofNat (hangul.trailing + index % 28)]

/-- The syllable of a leading consonant and a vowel, or of a syllable
without trailing consonant and such a consonant. -/
def composeSyllable? (a b : Nat) : Option Char :=
  if hangul.leading ≤ a && a < hangul.leading + 19
    && hangul.vowels ≤ b && b < hangul.vowels + 21 then
    some (Char.ofNat
      (hangul.syllables + (a - hangul.leading) * 588 + (b - hangul.vowels) * 28))
  else if hangul.syllables ≤ a && a < hangul.syllables + 11172
    && (a - hangul.syllables) % 28 == 0 && hangul.trailing < b && b < hangul.trailing + 28
  then some (Char.ofNat (a + (b - hangul.trailing)))
  else none

/-! ## Decomposition -/

/-- What a character decomposes into, in the end. -/
def decomposeChar (c : Char) : List Char :=
  let n := c.toNat
  if hangul.syllables ≤ n && n < hangul.syllables + 11172 then
    decomposeSyllable (n - hangul.syllables)
  else
    match decompositionTable.exactRow? n with
    | some row => row.numbers.map Char.ofNat
    | none => [c]

def classOf (c : Char) : Nat := combiningClass c.toNat

/-- The marks of a run, latest first and with their classes, in the order
of the classes. Marks of one class keep their order. -/
def sortedMarks (run : List (Nat × Char)) : List Char :=
  (run.reverse.mergeSort fun a b => a.1 ≤ b.1).map (·.2)

/-- Puts every run of marks in the order of their classes. `run` holds the
marks since the last character that starts anew. -/
def orderMarks (run : List (Nat × Char)) : List Char → List Char
  | [] => sortedMarks run
  | c :: cs =>
    let k := classOf c
    if k = 0 then sortedMarks run ++ c :: orderMarks [] cs else orderMarks ((k, c) :: run) cs

/-! ## Composition -/

/-- The numbers that follow a number in a list of pairs. -/
def pairedWith (b : Nat) : List Nat → Option Nat
  | x :: y :: rest => if x = b then some y else pairedWith b rest
  | _ => none

/-- The character that two characters compose into. -/
def compose? (a b : Char) : Option Char :=
  match composeSyllable? a.toNat b.toNat with
  | some c => some c
  | none =>
    (compositionTable.exactRow? a.toNat).bind fun row =>
      (pairedWith b.toNat row.numbers).map Char.ofNat

/-- Whether a character is next to its starter, but for marks of lower
classes. The marks after the starter stand latest first. -/
def reaches (marks : List Char) (c : Char) : Bool :=
  match marks with
  | [] => true
  | m :: _ => classOf m < classOf c

/-- Composes what follows with the character `s`, after which `marks` have
been left. -/
def composeWith (s : Char) (marks : List Char) : List Char → List Char
  | [] => s :: marks.reverse
  | c :: cs =>
    match if reaches marks c then compose? s c else none with
    | some d => composeWith d marks cs
    | none =>
      if classOf c = 0 then s :: marks.reverse ++ composeWith c [] cs
      else composeWith s (c :: marks) cs

def composeAll : List Char → List Char
  | [] => []
  | c :: cs => if classOf c = 0 then composeWith c [] cs else c :: composeAll cs

/-- The composed normal form. -/
def normalize (cs : List Char) : List Char := composeAll (orderMarks [] (cs.flatMap decomposeChar))

end Wsdl.Text
