-- What a message or fault carries, as its element attribute says.
import Wsdl.QName
import Wsdl.Text.Blank

namespace Wsdl

/-- The content of a message or fault. -/
inductive Content where
  /-- A globally declared element. -/
  | element (name : QName)
  | any
  | none
  /-- Anything else, also where the attribute is absent. -/
  | other
  deriving DecidableEq, Repr

namespace Content

instance : Inhabited Content := ⟨other⟩

/-- The content that a token stands for; blanks around it do not count. -/
def ofToken? (s : String) : Option Content :=
  match Text.trim s with
  | "#any" => some any
  | "#none" => some none
  | "#other" => some other
  | _ => Option.none

/-- The name of the element, if the content is one. -/
def name? : Content → Option QName
  | element q => some q
  | _ => Option.none

def text : Content → String
  | element q => q.text
  | any => "#any"
  | none => "#none"
  | other => "#other"

end Content

end Wsdl
