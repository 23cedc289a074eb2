-- Blank characters as Unicode lists them, and the two things done with
-- them: cutting them off both ends of a text, and splitting a text at
-- them.

namespace Wsdl.Text

/-! ## The blank characters -/

/-- A character with the Unicode property White_Space. -/
def isBlank (c : Char) : Bool :=
  let n := c.toNat
  (0x9 ≤ n && n ≤ 0xD) || n == 0x20 || n == 0x85 || n == 0xA0 || n == 0x1680 ||
    (0x2000 ≤ n && n ≤ 0x200A) || n == 0x2028 || n == 0x2029 || n == 0x202F ||
    n == 0x205F || n == 0x3000

/-- White space as XML markup knows it: space, tab, line feed and
carriage return. -/
def isXmlSpace (c : Char) : Bool :=
  c == ' ' || c == '\t' || c == '\n' || c == '\r'

/-! ## Trimming and splitting -/

/-- The characters without the ones at their end that satisfy `p`. -/
def dropRight (p : Char → Bool) (cs : List Char) : List Char :=
  (cs.reverse.dropWhile p).reverse

/-- The characters without the blank ones at either end. -/
def trimChars (cs : List Char) : List Char :=
  dropRight isBlank (cs.dropWhile isBlank)

/-- The text without the blanks at either end. -/
def trim (s : String) : String :=
  String.ofList (trimChars s.toList)

/-- The pieces between characters that satisfy `p`, empty ones included. -/
def splitWhere (p : Char → Bool) : List Char → List (List Char)
  | [] => [[]]
  | c :: cs =>
    if p c then [] :: splitWhere p cs
    else
      match splitWhere p cs with
      | [] => [[c]]
      | w :: ws => (c :: w) :: ws

/-- The words of a text: the longest runs without a blank. -/
def words (s : String) : List String :=
  ((splitWhere isBlank s.toList).filter (! ·.isEmpty)).map String.ofList

/-- The text before the first `c` and the text after it, if there is one. -/
def cutAt (c : Char) : List Char → Option (List Char × List Char)
  | [] => none
  | d :: ds => if d == c then some ([], ds) else (cutAt c ds).map fun (a, b) => (d :: a, b)

/-! ## Facts -/

theorem cutAt_eq_some {c : Char} {cs a b : List Char} (h : cutAt c cs = some (a, b)) :
    cs = a ++ c :: b ∧ c ∉ a := by
  induction cs generalizing a with
  | nil => simp [cutAt] at h
  | cons d ds ih =>
    by_cases hd : d == c
    · simp only [cutAt, hd, if_true, Option.some.injEq, Prod.mk.injEq] at h
      obtain ⟨rfl, rfl⟩ := h
      simp [eq_of_beq hd]
    · simp only [cutAt, hd] at h
      obtain ⟨⟨x, y⟩, hxy, he⟩ := Option.map_eq_some_iff.1 h
      obtain ⟨rfl, rfl⟩ := Prod.mk.inj he
      obtain ⟨h1, h2⟩ := ih hxy
      refine ⟨by simp [h1], ?_⟩
      have : ¬ c = d := fun e => hd (by simp [e])
      simp [this, h2]

theorem cutAt_eq_none_iff {c : Char} {cs : List Char} : cutAt c cs = none ↔ c ∉ cs := by
  induction cs with
  | nil => simp [cutAt]
  | cons d ds ih =>
    by_cases hd : d == c
    · simp [cutAt, eq_of_beq hd]
    · have : ¬ c = d := fun e => hd (by simp [e])
      simp [cutAt, hd, ih, this]

end Wsdl.Text
