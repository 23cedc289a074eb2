-- JSON values and their text, one entry to a line and two spaces to a
-- level.
import Wsdl.Text.Blank

namespace Wsdl.Text

/-- A JSON value. The entries of an object stand in the order in which
they are written. -/
inductive Json where
  | null
  | bool (b : Bool)
  | number (n : Nat)
  | text (s : String)
  | list (items : List Json)
  | object (entries : List (String × Json))
  deriving Repr, Inhabited

namespace Json

def ofOption {α : Type} (f : α → Json) : Option α → Json
  | some a => f a
  | none => null

/-! ## Strings -/

/-- A hexadecimal digit, in lower case. -/
def hexDigit (n : Nat) : Char := if n < 10 then Char.ofNat (0x30 + n) else Char.ofNat (0x57 + n)

/-- A character between quotes. Only quotes, backslashes and controls are
escaped. -/
def quoteChar (c : Char) : List Char :=
  if c == '"' then ['\\', '"']
  else if c == '\\' then ['\\', '\\']
  else if c == '\x08' then ['\\', 'b']
  else if c == '\x0c' then ['\\', 'f']
  else if c == '\n' then ['\\', 'n']
  else if c == '\r' then ['\\', 'r']
  else if c == '\t' then ['\\', 't']
  else if c.toNat < 0x20 then
    ['\\', 'u', '0', '0', hexDigit (c.toNat / 16), hexDigit (c.toNat % 16)]
  else [c]

def quote (s : String) : List Char := '"' :: s.toList.flatMap quoteChar ++ ['"']

/-! ## Values -/

/-- A line end and the spaces of a level. -/
def newLine (level : Nat) : List Char := '\n' :: List.replicate (2 * level) ' '

mutual

/-- The text of a value that starts on a line of some level. -/
def render (level : Nat) : Json → List Char
  | null => ['n', 'u', 'l', 'l']
  | bool b => if b then ['t', 'r', 'u', 'e'] else ['f', 'a', 'l', 's', 'e']
  | number n => (toString n).toList
  | text s => quote s
  | list [] => ['[', ']']
  | list (i :: is) =>
    '[' :: newLine (level + 1) ++ render (level + 1) i ++ renderItems (level + 1) is
      ++ newLine level ++ [']']
  | object [] => ['\x7b', '\x7d']
  | object ((k, v) :: es) =>
    '\x7b' :: newLine (level + 1) ++ quote k ++ [':', ' '] ++ render (level + 1) v
      ++ renderEntries (level + 1) es ++ newLine level ++ ['\x7d']

/-- The items after the first one. -/
def renderItems (level : Nat) : List Json → List Char
  | [] => []
  | i :: is => ',' :: newLine level ++ render level i ++ renderItems level is

/-- The entries after the first one. -/
def renderEntries (level : Nat) : List (String × Json) → List Char
  | [] => []
  | (k, v) :: es =>
    ',' :: newLine level ++ quote k ++ [':', ' '] ++ render level v ++ renderEntries level es

end

/-- The text of a value. -/
def toText (j : Json) : String := String.ofList (render 0 j)

end Json

end Wsdl.Text
