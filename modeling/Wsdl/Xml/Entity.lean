-- References in character data: the five names that XML predefines, and
-- characters by number.
import Wsdl.Text.Printable
import Wsdl.Text.Utf8

namespace Wsdl.Xml

namespace Entity

/-- Why character data is refused. Offsets count bytes. -/
inductive Fault where
  /-- A reference without its semicolon, from its ampersand to the end. -/
  | unterminated (first last : Nat)
  /-- A name that is not predefined. -/
  | unknown (first last : Nat) (name : List Char)
  /-- A character by the number zero. -/
  | nullCharacter (first last : Nat)
  | hexadecimalTooLong
  | decimalTooLong
  | notHexadecimal (c : Char)
  | notDecimal (c : Char)
  /-- A number that is no character. -/
  | notCodepoint (n : Nat)
  deriving DecidableEq, Repr

namespace Fault

private def inRange (first last : Nat) (what : String) : String :=
  "Error while escaping character at range " ++ toString first ++ ".." ++ toString last ++ ": "
    ++ what

def message : Fault → String
  | unterminated a b => inRange a b "Cannot find ';' after '&'"
  | unknown a b name => inRange a b ("Unrecognized escape symbol: " ++ Text.quote name)
  | nullCharacter a b => inRange a b "Null character entity not allowed"
  | hexadecimalTooLong => "Cannot convert hexadecimal to utf8"
  | decimalTooLong => "Cannot convert decimal to utf8"
  | notHexadecimal c => "'" ++ c.toString ++ "' is not a valid hexadecimal character"
  | notDecimal c => "'" ++ c.toString ++ "' is not a valid decimal character"
  | notCodepoint n => "'" ++ toString n ++ "' is not a valid codepoint"

end Fault

/-! ## Characters by number -/

/-- The value of a decimal digit. -/
def decimalDigit? (c : Char) : Option Nat :=
  if '0' ≤ c && c ≤ '9' then some (c.toNat - 0x30) else none

/-- The value of a hexadecimal digit of either case. -/
def hexDigit? (c : Char) : Option Nat :=
  if 'a' ≤ c && c ≤ 'f' then some (c.toNat - 0x57)
  else if 'A' ≤ c && c ≤ 'F' then some (c.toNat - 0x37)
  else decimalDigit? c

/-- The number that digits to a base write, or the first character that is
no digit. -/
def readNumber (base : Nat) (digit? : Char → Option Nat) (acc : Nat) :
    List Char → Except Char Nat
  | [] => .ok acc
  | c :: cs =>
    match digit? c with
    | some d => readNumber base digit? (acc * base + d) cs
    | none => .error (Text.firstByte c)

/-- The code point written after a number sign. -/
def readCode (cs : List Char) : Except Fault Nat :=
  match cs with
  | 'x' :: ds =>
    if 6 < Text.byteLength ds then .error .hexadecimalTooLong
    else (readNumber 16 hexDigit? 0 ds).mapError .notHexadecimal
  | ds =>
    if 7 < Text.byteLength ds then .error .decimalTooLong
    else (readNumber 10 decimalDigit? 0 ds).mapError .notDecimal

/-- The character with a code point, unless it is zero or no character. -/
def character (first last code : Nat) : Except Fault Char :=
  if code = 0 then .error (.nullCharacter first last)
  else if code.isValidChar then .ok (Char.ofNat code)
  else .error (.notCodepoint code)

/-! ## References by name -/

/-- The character that a predefined name stands for. -/
def named? (name : List Char) : Option Char :=
  match String.ofList name with
  | "lt" => some '<'
  | "gt" => some '>'
  | "amp" => some '&'
  | "apos" => some '\''
  | "quot" => some '"'
  | _ => none

/-- The character that a reference stands for. The ampersand is at `first`
and the semicolon at `last`. -/
def resolve (first last : Nat) (name : List Char) : Except Fault Char :=
  match name with
  | '#' :: digits => do character first last (← readCode digits)
  | _ =>
    match named? name with
    | some c => .ok c
    | none => .error (.unknown (first + 1) last name)

/-! ## Character data -/

/-- Character data with its references resolved. The characters stand at
`offset`, and `size` is the length of the whole. -/
def expand (size offset : Nat) : List Char → Except Fault (List Char)
  | [] => .ok []
  | c :: cs =>
    if c = '&' then
      let name := cs.takeWhile fun d => d ≠ '&' ∧ d ≠ ';'
      match cs.drop name.length with
      | ';' :: rest => do
        let last := offset + 1 + Text.byteLength name
        let d ← resolve offset last name
        let ds ← expand size (last + 1) (cs.drop (name.length + 1))
        return d :: ds
      | _ => .error (.unterminated offset size)
    else do
      let ds ← expand size (offset + c.utf8Size) cs
      return c :: ds
  termination_by cs => cs.length
  decreasing_by
    · simp only [List.length_drop, List.length_cons]; omega
    · simp

/-- Character data with its references resolved. -/
def unescape (cs : List Char) : Except Fault (List Char) := expand (Text.byteLength cs) 0 cs

end Entity

end Wsdl.Xml
