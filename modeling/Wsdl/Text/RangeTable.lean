-- Tables that give each code point a row. A table is written as words:
-- the first code point of a row in hexadecimal, one letter that says what
-- kind of row it is, and numbers with points between. A row holds up to
-- the start of the next one.
import Wsdl.Halving
import Wsdl.Text.Blank

namespace Wsdl.Text

/-- A row: where it starts, its kind, and its numbers. -/
structure Row where
  start : Nat
  kind : Char
  numbers : List Nat
  deriving DecidableEq, Repr, Inhabited

namespace Row

/-- The value of a hexadecimal digit. -/
def digit? (c : Char) : Option Nat :=
  let n := c.toNat
  if 0x30 ≤ n && n ≤ 0x39 then some (n - 0x30)
  else if 0x61 ≤ n && n ≤ 0x66 then some (n - 0x57)
  else none

/-- The number that the digits write, other characters left out. -/
def number (cs : List Char) : Nat :=
  cs.foldl (fun n c => match digit? c with | some d => n * 16 + d | none => n) 0

/-- The row that a word writes. -/
def ofWord (w : List Char) : Row :=
  let start := w.takeWhile fun c => (digit? c).isSome
  match w.dropWhile fun c => (digit? c).isSome with
  | [] => ⟨number start, ' ', []⟩
  | k :: rest =>
    ⟨number start, k, if rest.isEmpty then [] else (splitWhere (· == '.') rest).map number⟩

end Row

/-- Rows in ascending order of their starts. -/
structure RangeTable where
  rows : Array Row
  deriving Inhabited

namespace RangeTable

/-- The rows that the words of a line write. -/
def rowsOf (line : String) : List Row :=
  ((splitWhere isBlank line.toList).filter (! ·.isEmpty)).map Row.ofWord

/-- The table that lines of words write. -/
def ofLines (lines : List String) : RangeTable := ⟨(lines.flatMap rowsOf).toArray⟩

/-- The row of a code point: the last one that does not start after it. -/
def row? (t : RangeTable) (code : Nat) : Option Row :=
  match Halving.count (·.start ≤ code) t.rows with
  | 0 => none
  | n + 1 => t.rows[n]?

/-- The row that starts at a code point. -/
def exactRow? (t : RangeTable) (code : Nat) : Option Row :=
  (t.row? code).filter (·.start == code)

end RangeTable

end Wsdl.Text
