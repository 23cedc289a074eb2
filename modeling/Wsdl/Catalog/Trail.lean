-- The way on which a nested catalog was reached. No path comes twice on a
-- way, and there are only so many paths that can be opened, so every way
-- ends.
import Wsdl.File.System

namespace Wsdl

/-! ## Counting paths -/

namespace FilePath

/-- A number of its own for every sequence of bytes. -/
def code : List UInt8 → Nat
  | [] => 0
  | b :: bs => code bs * 257 + (b.toNat + 1)

theorem code_inj {a b : List UInt8} (h : code a = code b) : a = b := by
  induction a generalizing b with
  | nil =>
    cases b with
    | nil => rfl
    | cons y ys => simp only [code] at h; omega
  | cons x xs ih =>
    cases b with
    | nil => simp only [code] at h; omega
    | cons y ys =>
      have hx := x.toNat_lt
      have hy := y.toNat_lt
      simp only [code] at h
      have htail : code xs = code ys := by omega
      have hhead : x.toNat = y.toNat := by omega
      rw [ih htail, UInt8.toNat_inj.1 hhead]

theorem code_lt {bs : List UInt8} {n : Nat} (h : bs.length ≤ n) : code bs < Nat.pow 257 n := by
  induction bs generalizing n with
  | nil => exact Nat.pow_pos (by decide)
  | cons b bs ih =>
    cases n with
    | zero => simp at h
    | succ n =>
      have hb := b.toNat_lt
      have ht := ih (n := n) (by simpa using h)
      have hp : Nat.pow 257 (n + 1) = Nat.pow 257 n * 257 := rfl
      simp only [code]
      omega

end FilePath

/-- A list of numbers below `n`, none of them twice, has at most `n`. -/
theorem length_le_of_nodup_lt {l : List Nat} {n : Nat} (hd : l.Nodup) (hl : ∀ x ∈ l, x < n) :
    l.length ≤ n := by
  induction n generalizing l with
  | zero =>
    cases l with
    | nil => simp
    | cons x xs => exact absurd (hl x (by simp)) (by omega)
  | succ n ih =>
    have h1 := ih (l := l.erase n) (hd.erase n) fun x hx => by
      have := (hd.mem_erase_iff).1 hx
      have := hl x this.2
      omega
    have h2 := List.length_erase (a := n) (l := l)
    split at h2 <;> omega

/-! ## Trails -/

/-- The paths of the catalogs that are being read, each once. -/
structure Trail where
  paths : List FilePath
  nodup : paths.Nodup
  short : ∀ p ∈ paths, p.bytes.length < FileSystem.pathLimit

namespace Trail

/-- The way that has not begun. -/
def empty : Trail := ⟨[], List.nodup_nil, by simp⟩

/-- Whether the way can go on to a path. -/
def Fresh (t : Trail) (p : FilePath) : Prop :=
  p ∉ t.paths ∧ p.bytes.length < FileSystem.pathLimit

instance (t : Trail) (p : FilePath) : Decidable (t.Fresh p) := inferInstanceAs (Decidable (_ ∧ _))

/-- The way that goes on to a path. -/
def push (t : Trail) (p : FilePath) (h : t.Fresh p) : Trail :=
  ⟨p :: t.paths, List.nodup_cons.2 ⟨h.1, t.nodup⟩, fun q hq => by
    rcases List.mem_cons.1 hq with rfl | hq
    · exact h.2
    · exact t.short q hq⟩

/-- More paths than can be opened. -/
def bound : Nat := Nat.pow 257 FileSystem.pathLimit

theorem length_le_bound (t : Trail) : t.paths.length ≤ bound := by
  have hn : (t.paths.map fun p => FilePath.code p.bytes).Nodup := by
    refine List.Pairwise.map _ (fun p q hpq hc => hpq ?_) t.nodup
    cases p; cases q
    exact congrArg _ (FilePath.code_inj hc)
  have h := length_le_of_nodup_lt (n := bound) hn fun x hx => by
    obtain ⟨p, hp, rfl⟩ := List.mem_map.1 hx
    unfold bound
    exact FilePath.code_lt (Nat.le_of_lt (t.short p hp))
  rwa [List.length_map] at h

/-- How many more paths the way can take at most. -/
def room (t : Trail) : Nat := bound - t.paths.length

theorem room_push (t : Trail) (p : FilePath) (h : t.Fresh p) : (t.push p h).room < t.room := by
  have h1 := (t.push p h).length_le_bound
  have h2 : (t.push p h).paths.length = t.paths.length + 1 := rfl
  unfold room
  omega

end Trail

end Wsdl
