-- Lines and columns. A position is counted from one; columns count bytes.
import Wsdl.Halving
import Wsdl.Text.Utf8

namespace Wsdl.Xml

/-- A line and a column, both counted from one. -/
structure Position where
  line : Nat
  column : Nat
  deriving DecidableEq, Repr, Inhabited

namespace Position

def text (p : Position) : String := toString p.line ++ ":" ++ toString p.column

end Position

/-- The offsets at which the lines after the first one start, in bytes,
when the characters stand at `offset`. -/
def laterLines (offset : Nat) : List Char → List Nat
  | [] => []
  | c :: cs =>
    let next := offset + c.utf8Size
    if c == '\n' then next :: laterLines next cs else laterLines next cs

/-- The offsets at which the lines of a text start, in order. -/
structure LineIndex where
  starts : Array Nat
  deriving DecidableEq, Repr

namespace LineIndex

/-- The line starts of a text. -/
def of (cs : List Char) : LineIndex := ⟨(0 :: laterLines 0 cs).toArray⟩

/-- The position of an offset: the last line that starts at or before it,
and the distance from there. Neither number is more than `offset + 1`, so words of
64 bits hold them where `offset + 1 < 2 ^ 64`. -/
def position (ix : LineIndex) (offset : Nat) : Position :=
  let line := Halving.count (· ≤ offset) ix.starts
  ⟨line, offset - ix.starts.getD (line - 1) 0 + 1⟩

end LineIndex

end Wsdl.Xml
