-- File paths: sequences of bytes with slashes between the names.
import Wsdl.Text.Utf8

namespace Wsdl

/-- A file path, as bytes. -/
structure FilePath where
  bytes : List UInt8
  deriving DecidableEq, Repr, Inhabited

namespace FilePath

def slash : UInt8 := 0x2F

def dot : UInt8 := 0x2E

/-- The path that a text writes. -/
def ofText (s : String) : FilePath := ⟨Text.encodeText s⟩

/-- The path as text, with U+FFFD for bytes that are none. -/
def text (p : FilePath) : String := String.ofList (Text.decodeLossy p.bytes)

/-- Whether the path starts at the root. -/
def isAbsolute (p : FilePath) : Bool := p.bytes.head? == some slash

/-! ## Names in a path -/

/-- The pieces between slashes, empty ones included. -/
def pieces : List UInt8 → List (List UInt8)
  | [] => [[]]
  | b :: bs =>
    if b = slash then [] :: pieces bs
    else
      match pieces bs with
      | [] => [[b]]
      | w :: ws => (b :: w) :: ws

/-- Whether a piece of a path stays where it is. -/
def isIdle (piece : List UInt8) : Bool := piece.isEmpty || piece == [dot]

/-- The names that a path goes through: its pieces without the empty ones
and the single dots. -/
def names (p : FilePath) : List (List UInt8) := (pieces p.bytes).filter (! isIdle ·)

/-! ## Joining and parents -/

/-- The path of `q` seen from `p`. An absolute path stands on its own. -/
def join (p q : FilePath) : FilePath :=
  if q.isAbsolute then q
  else if p.bytes.isEmpty || p.bytes.getLast? == some slash then ⟨p.bytes ++ q.bytes⟩
  else ⟨p.bytes ++ slash :: q.bytes⟩

/-- The path in reverse without what stays in place at its end: slashes,
and dots that stand alone. The first slash or dot of a path stays. -/
def trimIdle : List UInt8 → List UInt8
  | [] => []
  | [b] => [b]
  | b :: c :: rest =>
    if b = slash then trimIdle (c :: rest)
    else if b = dot ∧ c = slash then trimIdle (c :: rest)
    else b :: c :: rest

/-- The path without its last name; none if it has no name. -/
def parent? (p : FilePath) : Option FilePath :=
  let rev := trimIdle p.bytes.reverse
  match rev with
  | [] => none
  | [b] => if b = slash then none else some ⟨[]⟩
  | rev =>
    match rev.dropWhile (· ≠ slash) with
    | [] => some ⟨[]⟩
    | _ :: before =>
      if before.all (· = slash) then some ⟨[slash]⟩ else some ⟨(trimIdle before).reverse⟩

end FilePath

end Wsdl
