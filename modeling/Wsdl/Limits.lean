-- The limits under which documents are read.

namespace Wsdl

/-- The largest amounts that are accepted. -/
structure Limits where
  /-- How deep elements may be nested. -/
  depth : Nat
  /-- How many bytes a document may have. -/
  size : Nat
  /-- How many attributes an element may have. -/
  attributes : Nat
  /-- How many namespaces a start tag may declare. -/
  namespaces : Nat
  /-- How many imported schemas are loaded for one description. -/
  schemaImports : Nat
  deriving DecidableEq, Repr

/-- What is limited. -/
inductive Amount where
  | depth
  | size
  | attributes
  | namespaces
  | schemaImports
  deriving DecidableEq, Repr

/-- An amount that is over its limit. -/
structure Excess where
  amount : Amount
  found : Nat
  limit : Nat
  deriving DecidableEq, Repr

namespace Excess

def message (e : Excess) : String :=
  let n := toString e.found
  let m := toString e.limit
  match e.amount with
  | .depth => "XML depth " ++ n ++ " exceeds maximum " ++ m
  | .size => "XML size " ++ n ++ " bytes exceeds maximum " ++ m ++ " bytes"
  | .attributes => "Attribute count " ++ n ++ " exceeds maximum " ++ m
  | .namespaces => "Namespace count " ++ n ++ " exceeds maximum " ++ m
  | .schemaImports => "Schema import count " ++ n ++ " exceeds maximum " ++ m

end Excess

namespace Limits

/-! ## The three settings -/

/-- The limits that hold unless others are asked for. -/
def standard : Limits := ⟨1000, 100 * 1024 * 1024, 1000, 1000, 100⟩

/-- Limits for documents that nobody vouches for. -/
def strict : Limits := ⟨100, 10 * 1024 * 1024, 100, 100, 20⟩

/-- Wide limits, for documents that are trusted. -/
def permissive : Limits := ⟨10000, 1024 * 1024 * 1024, 10000, 10000, 1000⟩

instance : Inhabited Limits := ⟨standard⟩

/-! ## Checking -/

/-- The limit of an amount. -/
def of (l : Limits) : Amount → Nat
  | .depth => l.depth
  | .size => l.size
  | .attributes => l.attributes
  | .namespaces => l.namespaces
  | .schemaImports => l.schemaImports

/-- Refuses an amount over its limit; the limit itself is accepted. -/
def check (l : Limits) (a : Amount) (n : Nat) : Except Excess Unit :=
  if l.of a < n then .error ⟨a, n, l.of a⟩ else .ok ()

theorem check_eq_ok_iff {l : Limits} {a : Amount} {n : Nat} :
    l.check a n = .ok () ↔ n ≤ l.of a := by
  unfold check
  split <;> simp <;> omega

end Limits

end Wsdl
