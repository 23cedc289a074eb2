-- The starts of lines, and what is looked up among them. Each stands behind a line
-- feed, so the line of any offset tells how many line feeds stand before it, and the
-- column how far it is behind the last of these: on a character or within one, and past
-- the end of the text. There is always a start to count from.
import Mathlib.Data.List.DropRight
import Mathlib.Data.List.Induction
import Wsdl.Proofs.Encoding
import Wsdl.Xml.Position

namespace Wsdl.Xml

/-! ## Starts behind line feeds -/

/-- The byte of a line feed. -/
def lineFeed : UInt8 := 0x0A

/-- The offsets at which the lines of some bytes start: the first one, and each that is
behind a line feed. -/
def lineStarts (bs : List UInt8) : List Nat := 0 :: (bs.idxsOf lineFeed).map (· + 1)

/-- The start of the line that goes on behind some bytes. -/
def lastStart (bs : List UInt8) : Nat := (bs.rdropWhile (· ≠ lineFeed)).length

/-- Only a line feed has its byte. -/
theorem lineFeed_not_mem {c : Char} (hc : c ≠ '\n') : lineFeed ∉ String.utf8EncodeChar c := by
  intro hb
  by_cases hone : c.val.toNat ≤ 0x7F
  · rw [Text.utf8EncodeChar_of_ascii hone, List.mem_singleton] at hb
    refine hc ?_
    rw [← Text.ofNat_toNat_of_ascii hone, ← hb]
    rfl
  · exact absurd (Text.le_of_mem_utf8EncodeChar (Nat.lt_of_not_le hone) hb) (by decide)

/-- The line starts are found by the bytes. -/
theorem laterLines_eq (offset : Nat) (cs : List Char) :
    laterLines offset cs = ((Text.encode cs).idxsOf lineFeed offset).map (· + 1) := by
  induction cs generalizing offset with
  | nil => rfl
  | cons c cs ih =>
    have hencode : Text.encode (c :: cs) = String.utf8EncodeChar c ++ Text.encode cs :=
      List.flatMap_cons
    rw [hencode, List.idxsOf_append, List.map_append, String.length_utf8EncodeChar, ← ih]
    by_cases hc : c = '\n'
    · subst hc
      rfl
    · have hnone : (String.utf8EncodeChar c).idxsOf lineFeed offset = [] :=
        List.idxsOf_eq_nil_iff.2 fun b hb =>
          beq_eq_false_iff_ne.2 fun hbl => lineFeed_not_mem hc (hbl ▸ hb)
      rw [hnone]
      simp [laterLines, hc]

theorem starts_of (cs : List Char) :
    (LineIndex.of cs).starts = (lineStarts (Text.encode cs)).toArray := by
  rw [LineIndex.of, laterLines_eq, lineStarts]

section

variable (bs : List UInt8)

theorem length_lineStarts : (lineStarts bs).length = bs.count lineFeed + 1 := by
  simp [lineStarts]

theorem pairwise_lineStarts : (lineStarts bs).Pairwise (· < ·) := by
  refine List.pairwise_cons.2 ⟨?_, ?_⟩
  · intro s hs
    obtain ⟨i, _, rfl⟩ := List.mem_map.1 hs
    exact Nat.succ_pos i
  · exact List.pairwise_map.2 (List.pairwise_idxsOf.imp Nat.succ_lt_succ)

theorem lineStarts_append (ds : List UInt8) :
    lineStarts (bs ++ ds)
      = lineStarts bs ++ (ds.idxsOf lineFeed bs.length).map (· + 1) := by
  simp [lineStarts]

theorem lineStarts_concat (b : UInt8) :
    lineStarts (bs ++ [b]) = lineStarts bs ++ if b = lineFeed then [bs.length + 1] else [] := by
  by_cases hb : b = lineFeed <;> simp [lineStarts_append, hb]

theorem lastStart_concat (b : UInt8) :
    lastStart (bs ++ [b]) = if b = lineFeed then bs.length + 1 else lastStart bs := by
  by_cases hb : b = lineFeed
  · rw [lastStart, List.rdropWhile_concat_neg _ _ _ (by simpa using hb), if_pos hb]
    simp
  · rw [lastStart, List.rdropWhile_concat_pos _ _ _ (by simpa using hb), if_neg hb, lastStart]

theorem lastStart_append {ds : List UInt8} (h : lineFeed ∉ ds) :
    lastStart (bs ++ ds) = lastStart bs := by
  induction ds using List.reverseRecOn with
  | nil => rw [List.append_nil]
  | append_singleton ds b ih =>
    rw [List.mem_append, not_or, List.mem_singleton] at h
    rw [← List.append_assoc, lastStart_concat, if_neg (Ne.symm h.2), ih h.1]

theorem getLast?_lineStarts : (lineStarts bs).getLast? = some (lastStart bs) := by
  induction bs using List.reverseRecOn with
  | nil => rfl
  | append_singleton bs b ih =>
    rw [lineStarts_concat, lastStart_concat]
    by_cases hb : b = lineFeed
    · simp [hb]
    · simp only [hb, if_false, List.append_nil, ih]

theorem lastStart_le_length : lastStart bs ≤ bs.length :=
  (List.rdropWhile_prefix _ _).length_le

/-- No more line feeds than bytes are before a start. -/
theorem count_lineFeed_le_lastStart : bs.count lineFeed ≤ lastStart bs := by
  induction bs using List.reverseRecOn with
  | nil => exact Nat.le_refl 0
  | append_singleton bs b ih =>
    rw [lastStart_concat, List.count_append, List.count_singleton]
    have hlength := lastStart_le_length bs
    by_cases hb : b = lineFeed
    · simp only [hb, if_true, beq_self_eq_true]
      omega
    · simp only [hb, if_false, beq_iff_eq]
      exact ih

/-- The starts up to an offset are those of the bytes before it. -/
theorem takeWhile_lineStarts (offset : Nat) :
    (lineStarts bs).takeWhile (· ≤ offset) = lineStarts (bs.take offset) := by
  have hbefore : ∀ s ∈ lineStarts (bs.take offset), decide (s ≤ offset) = true := by
    intro s hs
    rw [decide_eq_true_eq]
    rcases List.mem_cons.1 hs with rfl | hs
    · exact Nat.zero_le offset
    · obtain ⟨i, hi, rfl⟩ := List.mem_map.1 hs
      have hlt := List.lt_add_of_mem_idxsOf i hi
      have hlength := List.length_take_le offset bs
      omega
  have hbehind : (((bs.drop offset).idxsOf lineFeed (bs.take offset).length).map (· + 1)).takeWhile
      (· ≤ offset) = [] := by
    cases hstarts : ((bs.drop offset).idxsOf lineFeed (bs.take offset).length).map (· + 1) with
    | nil => rfl
    | cons s starts =>
      obtain ⟨i, hi, rfl⟩ := List.mem_map.1 (hstarts.symm ▸ List.mem_cons_self : s ∈ _)
      have hle := List.ge_of_mem_idxsOf i hi
      have hlt := List.lt_add_of_mem_idxsOf i hi
      rw [List.length_take] at hle hlt
      rw [List.length_drop] at hlt
      exact List.takeWhile_cons_of_neg (by rw [decide_eq_true_eq]; omega)
  conv_lhs => rw [← List.take_append_drop offset bs]
  rw [lineStarts_append, List.takeWhile_append_of_pos hbefore, hbehind, List.append_nil]

/-- As many line feeds as are before an offset, so many starts are before that of its
line. -/
theorem getElem?_lineStarts (offset : Nat) :
    (lineStarts bs)[(bs.take offset).count lineFeed]? = some (lastStart (bs.take offset)) := by
  have hsplit : lineStarts bs = lineStarts (bs.take offset)
      ++ ((bs.drop offset).idxsOf lineFeed (bs.take offset).length).map (· + 1) := by
    rw [← lineStarts_append, List.take_append_drop]
  have hlt : (bs.take offset).count lineFeed < (lineStarts (bs.take offset)).length := by
    rw [length_lineStarts]
    exact Nat.lt_succ_self _
  have hlast := getLast?_lineStarts (bs.take offset)
  rw [List.getLast?_eq_getElem?, length_lineStarts, Nat.add_sub_cancel] at hlast
  rw [hsplit, List.getElem?_append_left hlt, hlast]

end

/-! ## Looking up a number -/

/-- What is said of a number that is looked for among increasing ones: the place where it
is, or the place where it would have to be put in. -/
inductive Lookup where
  | found (place : Nat)
  | missing (place : Nat)

namespace Lookup

/-- The numbers before the place are less, and the others greater. -/
def IsRight (starts : Array Nat) (offset : Nat) : Lookup → Prop
  | found i => starts[i]? = some offset
  | missing i => i ≤ starts.size ∧
      ∀ j s, starts[j]? = some s → (j < i → s < offset) ∧ (i ≤ j → offset < s)

/-- The place of the line, if there is one: where the number is, or before the place where
it would have to be. -/
def line? : Lookup → Option Nat
  | found i => some i
  | missing i => if 0 < i then some (i - 1) else none

/-- What is right where the first number and `n` more do not exceed the one that is looked
for. -/
def answer (starts : Array Nat) (offset n : Nat) : Lookup :=
  if starts[n]? = some offset then found n else missing (n + 1)

theorem line?_answer (starts : Array Nat) (offset n : Nat) :
    (answer starts offset n).line? = some n := by
  unfold answer
  split
  · rfl
  · rfl

section

variable {starts : Array Nat} {offset n : Nat}

theorem lt_of_getElem? (hstarts : starts.toList.Pairwise (· < ·)) {i j s t : Nat} (hij : i < j)
    (hs : starts[i]? = some s) (ht : starts[j]? = some t) : s < t := by
  obtain ⟨hi, rfl⟩ := Array.getElem?_eq_some_iff.1 hs
  obtain ⟨hj, rfl⟩ := Array.getElem?_eq_some_iff.1 ht
  exact List.pairwise_iff_getElem.1 hstarts i j hi hj hij

theorem le_iff_of_isFront (hfront : Halving.IsFront (· ≤ offset) starts (n + 1)) {i s : Nat}
    (hs : starts[i]? = some s) : s ≤ offset ↔ i ≤ n := by
  have h := hfront.2 i (Array.getElem?_eq_some_iff.1 hs).1
  rw [hs, Option.any_some, decide_eq_decide] at h
  exact h.trans Nat.lt_succ_iff

variable (hstarts : starts.toList.Pairwise (· < ·))
  (hfront : Halving.IsFront (· ≤ offset) starts (n + 1))

include hstarts hfront

/-- If the number is there, it is the last one that does not exceed itself. -/
theorem isRight_found_iff {i : Nat} :
    (found i).IsRight starts offset ↔ i = n ∧ starts[n]? = some offset := by
  constructor
  · intro hi
    have hle : i ≤ n := (le_iff_of_isFront hfront hi).1 (Nat.le_refl offset)
    rcases Nat.lt_or_eq_of_le hle with hlt | rfl
    · have hlast := Array.getElem?_eq_getElem (Nat.lt_of_succ_le hfront.1)
      have hgreater := lt_of_getElem? hstarts hlt hi hlast
      exact absurd ((le_iff_of_isFront hfront hlast).2 (Nat.le_refl n)) (Nat.not_le.2 hgreater)
    · exact ⟨rfl, hi⟩
  · rintro ⟨rfl, hn⟩
    exact hn

/-- If it is not, it belongs behind all that are less. -/
theorem isRight_missing_iff {i : Nat} :
    (missing i).IsRight starts offset ↔ i = n + 1 ∧ starts[n]? ≠ some offset := by
  obtain ⟨last, hlast⟩ : ∃ s, starts[n]? = some s :=
    ⟨_, Array.getElem?_eq_getElem (Nat.lt_of_succ_le hfront.1)⟩
  have hle : last ≤ offset := (le_iff_of_isFront hfront hlast).2 (Nat.le_refl n)
  rw [hlast]
  constructor
  · rintro ⟨hi, hplaces⟩
    have hbefore : n < i := by
      refine Nat.lt_of_not_le fun hin => ?_
      exact absurd ((hplaces n last hlast).2 hin) (Nat.not_lt.2 hle)
    refine ⟨Nat.le_antisymm (Nat.le_of_not_lt fun hlt => ?_) hbefore, ?_⟩
    · -- the number behind the last one exceeds the offset, so it cannot be before the place
      have hnext := Array.getElem?_eq_getElem (Nat.lt_of_lt_of_le hlt hi)
      have hless := ((hplaces (n + 1) _ hnext).1 hlt)
      exact absurd ((le_iff_of_isFront hfront hnext).1 (Nat.le_of_lt hless)) (Nat.not_succ_le_self n)
    · intro heq
      have hless := (hplaces n last hlast).1 hbefore
      exact Nat.ne_of_lt hless (Option.some.inj heq)
  · rintro ⟨rfl, hne⟩
    have hlt : last < offset := Nat.lt_of_le_of_ne hle fun h => hne (congrArg some h)
    refine ⟨hfront.1, fun j s hs => ⟨fun hj => ?_, fun hj => ?_⟩⟩
    · rcases Nat.lt_or_eq_of_le (Nat.le_of_lt_succ hj) with hjn | rfl
      · exact Nat.lt_trans (lt_of_getElem? hstarts hjn hs hlast) hlt
      · obtain rfl := Option.some.inj (hs.symm.trans hlast)
        exact hlt
    · exact Nat.lt_of_not_le fun hsle =>
        Nat.not_succ_le_self n (Nat.le_trans hj ((le_iff_of_isFront hfront hs).1 hsle))

/-- There is just one right answer. -/
theorem isRight_iff (l : Lookup) : l.IsRight starts offset ↔ l = answer starts offset n := by
  unfold answer
  cases l with
  | found i =>
    rw [isRight_found_iff hstarts hfront]
    split
    · next hn => simp [hn]
    · next hn => simp [hn]
  | missing i =>
    rw [isRight_missing_iff hstarts hfront]
    split
    · next hn => simp [hn]
    · next hn => simp [hn]

end

end Lookup

/-! ## Positions -/

section

variable (cs : List Char) (offset : Nat)

/-- How many line feeds a text has before an offset. -/
def breaksBefore : Nat := ((Text.encode cs).take offset).count lineFeed

/-- The start of the line that an offset is in: behind the last line feed before it. -/
def startOfLine : Nat := lastStart ((Text.encode cs).take offset)

theorem startOfLine_le : startOfLine cs offset ≤ offset :=
  Nat.le_trans (lastStart_le_length _) (List.length_take_le offset _)

theorem breaksBefore_le : breaksBefore cs offset ≤ startOfLine cs offset :=
  count_lineFeed_le_lastStart _

theorem breaksBefore_mono {other : Nat} (h : offset ≤ other) :
    breaksBefore cs offset ≤ breaksBefore cs other :=
  List.Sublist.count_le _ (List.take_sublist_take_left h)

namespace LineIndex

theorem getElem?_starts :
    (LineIndex.of cs).starts[breaksBefore cs offset]? = some (startOfLine cs offset) := by
  rw [starts_of, List.getElem?_toArray]
  exact getElem?_lineStarts _ offset

theorem pairwise_starts : (LineIndex.of cs).starts.toList.Pairwise (· < ·) := by
  rw [starts_of]
  exact pairwise_lineStarts _

theorem isFront_starts :
    Halving.IsFront (· ≤ offset) (LineIndex.of cs).starts (breaksBefore cs offset + 1) := by
  have hfront : Halving.IsFront (· ≤ offset) (lineStarts (Text.encode cs)).toArray
      ((lineStarts (Text.encode cs)).takeWhile (· ≤ offset)).length :=
    Halving.isFront_takeWhile ((pairwise_lineStarts _).imp fun hst ht => by
      simp only [decide_eq_true_eq] at ht ⊢
      exact Nat.le_of_lt (Nat.lt_of_lt_of_le hst ht))
  rwa [takeWhile_lineStarts, length_lineStarts, ← starts_of] at hfront

theorem position_eq :
    (LineIndex.of cs).position offset
      = ⟨breaksBefore cs offset + 1, offset - startOfLine cs offset + 1⟩ := by
  have hcount := Halving.count_eq (isFront_starts cs offset)
  simp only [position, hcount, Nat.add_sub_cancel, Array.getD_eq_getD_getElem?, getElem?_starts,
    Option.getD_some]

/-- The position of an offset by an answer to looking it up; none where there is no such
line, or it starts behind the offset. -/
def positionBy? (ix : LineIndex) (offset : Nat) (l : Lookup) : Option Position := do
  let line ← l.line?
  let start ← ix.starts[line]?
  if start ≤ offset then some ⟨line + 1, offset - start + 1⟩ else none

/-- The one right answer leads to the position. -/
theorem exists_lookup :
    ∃ l, (∀ l', Lookup.IsRight (LineIndex.of cs).starts offset l' ↔ l' = l) ∧
      (LineIndex.of cs).positionBy? offset l = some ((LineIndex.of cs).position offset) := by
  refine ⟨_, Lookup.isRight_iff (pairwise_starts cs) (isFront_starts cs offset), ?_⟩
  rw [positionBy?, Lookup.line?_answer, position_eq]
  simp only [Option.bind_eq_bind, Option.bind_some, getElem?_starts, startOfLine_le, if_true]

end LineIndex

end

end Wsdl.Xml
