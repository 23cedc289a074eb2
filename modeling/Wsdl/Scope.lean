-- The namespace bindings in force at a point of a document, and how names
-- are resolved with them.
import Wsdl.Dictionary
import Wsdl.Name
import Wsdl.QName

namespace Wsdl

/-- The bindings in force: prefixes to namespaces, and the namespace of
names without a prefix. -/
structure Scope where
  prefixes : Dictionary
  default : Option String
  deriving DecidableEq, Repr

namespace Scope

/-! ## Declarations -/

/-- The scope in which nothing is declared. -/
def empty : Scope := ⟨.empty, none⟩

instance : Inhabited Scope := ⟨empty⟩

/-- Binds a prefix. -/
def bind (s : Scope) (p ns : String) : Scope := { s with prefixes := s.prefixes.insert p ns }

/-- Sets the namespace of names without a prefix; the empty text leaves
them in none. -/
def setDefault (s : Scope) (ns : String) : Scope :=
  { s with default := if ns.isEmpty then none else some ns }

/-! ## Questions -/

/-- The namespace of a prefix. The prefix xml always has its own. -/
def find? (s : Scope) (p : String) : Option String :=
  if p = "xml" then some xmlNamespace else s.prefixes.find? p

/-- The number of prefixes that are bound. -/
def size (s : Scope) : Nat := s.prefixes.size

/-- Whether nothing is declared. -/
def isEmpty (s : Scope) : Bool := s.prefixes.isEmpty && s.default.isNone

/-! ## Resolution -/

/-- Why a name does not resolve. -/
inductive Fault where
  | unknownPrefix (p : String)
  deriving DecidableEq, Repr

def Fault.message : Fault → String
  | .unknownPrefix p => "Unknown prefix: " ++ p

/-- The expanded name that a written name stands for. Blanks around it are
dropped, and without a prefix it is in the default namespace. -/
def resolve (s : Scope) (written : String) : Except Fault QName :=
  match splitPrefix (Text.trim written) with
  | (some p, l) =>
    match s.find? p with
    | some ns => .ok ⟨some ns, l⟩
    | none => .error (.unknownPrefix p)
  | (none, l) => .ok ⟨s.default, l⟩

/-- The expanded name of an element. -/
def resolveElement (s : Scope) (written : String) : Except Fault QName := s.resolve written

/-- The expanded name of an attribute: without a colon it is the name as
written, in no namespace. -/
def resolveAttribute (s : Scope) (written : String) : Except Fault QName :=
  if written.toList.contains ':' then s.resolve written else .ok ⟨none, written⟩

/-! ## Facts -/

@[simp] theorem default_bind (s : Scope) (p ns : String) : (s.bind p ns).default = s.default := rfl

theorem default_setDefault (s : Scope) (ns : String) :
    (s.setDefault ns).default = if ns.isEmpty then none else some ns := rfl

end Scope

end Wsdl
