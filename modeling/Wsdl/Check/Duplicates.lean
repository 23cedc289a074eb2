-- Finding the entries of a list that repeat an earlier one. Absent
-- entries never do.

namespace Wsdl.Check

section

variable {α : Type} [BEq α]

/-- The entries that are in `seen` or repeat an earlier entry. -/
def duplicatesFrom (seen : List α) : List α → List α
  | [] => []
  | x :: xs =>
    if seen.contains x then x :: duplicatesFrom seen xs
    else duplicatesFrom (x :: seen) xs

/-- Every present entry that repeats an earlier one, in order. -/
def duplicates (xs : List (Option α)) : List α := duplicatesFrom [] (xs.filterMap id)

/-- The first entry that is in `seen` or repeats an earlier entry. -/
def firstDuplicateFrom? (seen : List α) : List α → Option α
  | [] => none
  | x :: xs => if seen.contains x then some x else firstDuplicateFrom? (x :: seen) xs

/-- The first present entry that repeats an earlier one. -/
def firstDuplicate? (xs : List (Option α)) : Option α := firstDuplicateFrom? [] (xs.filterMap id)

theorem firstDuplicateFrom?_eq_head? (seen xs : List α) :
    firstDuplicateFrom? seen xs = (duplicatesFrom seen xs).head? := by
  induction xs generalizing seen with
  | nil => rfl
  | cons x xs ih =>
    unfold firstDuplicateFrom? duplicatesFrom
    split
    · rfl
    · exact ih _

/-- Searching for the first one gives the first of all. -/
theorem firstDuplicate?_eq_head? (xs : List (Option α)) :
    firstDuplicate? xs = (duplicates xs).head? :=
  firstDuplicateFrom?_eq_head? [] _

end

/-! ## Pairs -/

section

variable {α β : Type} [BEq α] [BEq β]

/-- The second halves that were seen with each first half. -/
abbrev Groups (α β : Type) := List (α × List β)

/-- The second halves seen with `a`. -/
def Groups.seconds (g : Groups α β) (a : α) : List β := (g.lookup a).getD []

/-- Notes that `b` was seen with `a`. -/
def Groups.note (a : α) (b : β) : Groups α β → Groups α β
  | [] => [(a, [b])]
  | (x, bs) :: g => if a == x then (x, b :: bs) :: g else (x, bs) :: note a b g

/-- The pairs whose second half was seen with the first one, or that
repeat an earlier pair. -/
def duplicatePairsFrom (g : Groups α β) : List (α × β) → List (α × β)
  | [] => []
  | (a, b) :: ps =>
    if (g.seconds a).contains b then (a, b) :: duplicatePairsFrom g ps
    else duplicatePairsFrom (g.note a b) ps

/-- The pair, if both halves are present. -/
def bothPresent : Option α × Option β → Option (α × β)
  | (some a, some b) => some (a, b)
  | _ => none

/-- Every pair that repeats an earlier one, in order. Pairs with an absent
half are left out. -/
def duplicatePairs (ps : List (Option α × Option β)) : List (α × β) :=
  duplicatePairsFrom [] (ps.filterMap bothPresent)

end

end Wsdl.Check
