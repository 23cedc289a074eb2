-- Names as XML writes them. An NCName is a name without a colon; a
-- lexical QName is an NCName, or two of them with a colon between.
import Wsdl.Text.Blank

namespace Wsdl

/-! ## NCNames -/

/-- The characters an NCName may start with. -/
def isNameStart (c : Char) : Bool :=
  let n := c.toNat
  (0x41 ≤ n && n ≤ 0x5A) || n == 0x5F || (0x61 ≤ n && n ≤ 0x7A) ||
    (0xC0 ≤ n && n ≤ 0xD6) || (0xD8 ≤ n && n ≤ 0xF6) || (0xF8 ≤ n && n ≤ 0x2FF) ||
    (0x370 ≤ n && n ≤ 0x37D) || (0x37F ≤ n && n ≤ 0x1FFF)

/-- The characters an NCName may go on with. -/
def isNameRest (c : Char) : Bool :=
  isNameStart c || c == '-' || c == '.' || (0x30 ≤ c.toNat && c.toNat ≤ 0x39) ||
    c.toNat == 0xB7

def isNCNameChars : List Char → Bool
  | [] => false
  | c :: cs => isNameStart c && cs.all isNameRest

/-- Whether the text is an NCName: a start character and then rest
characters. -/
def isNCName (s : String) : Bool := isNCNameChars s.toList

/-! ## Names with a prefix -/

/-- The text before the first colon, if there is a colon, and the text
after it. -/
def splitPrefix (s : String) : Option String × String :=
  match Text.cutAt ':' s.toList with
  | some (p, l) => (some (String.ofList p), String.ofList l)
  | none => (none, s)

/-- Whether the text is an NCName or two NCNames with a colon between. -/
def isPrefixedName (s : String) : Bool :=
  match splitPrefix s with
  | (some p, l) => isNCName p && isNCName l
  | (none, l) => isNCName l

/-! ## Names that are refused -/

/-- Why a text is refused as a name. -/
inductive NameFault where
  | notNCName (text : String)
  | notPrefixedName (text : String)
  deriving DecidableEq, Repr

namespace NameFault

def message : NameFault → String
  | notNCName s => "Invalid NCName: '" ++ s ++ "'"
  | notPrefixedName s => "Invalid QName: '" ++ s ++ "'"

end NameFault

def checkNCName (s : String) : Except NameFault Unit :=
  if isNCName s then .ok () else .error (.notNCName s)

def checkPrefixedName (s : String) : Except NameFault Unit :=
  if isPrefixedName s then .ok () else .error (.notPrefixedName s)

end Wsdl
