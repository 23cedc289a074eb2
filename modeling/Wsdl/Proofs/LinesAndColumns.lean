-- Lines and columns against the text itself. The line of a position tells how many
-- line feeds stand before it, and the column how many bytes stand behind the last of
-- these. That is so of places between characters and of any other offset, and offsets
-- have the order of their positions.
import Mathlib.Data.List.Induction
import Wsdl.Proofs.LineStarts

namespace Wsdl.Xml

/-! ## Positions behind characters -/

/-- The characters behind the last line feed, or all if there is none. -/
def lastLine (cs : List Char) : List Char := (cs.reverse.takeWhile (· ≠ '\n')).reverse

namespace Position

/-- Where some characters lead to from the beginning of a text. -/
def behind (cs : List Char) : Position :=
  ⟨1 + cs.count '\n', 1 + Text.byteLength (lastLine cs)⟩

/-- The order of a text: by lines, and within a line by columns. -/
def Before (p q : Position) : Prop := p.line < q.line ∨ p.line = q.line ∧ p.column < q.column

instance (p q : Position) : Decidable (p.Before q) :=
  inferInstanceAs (Decidable (p.line < q.line ∨ p.line = q.line ∧ p.column < q.column))

end Position

/-- No two positions stand each before the other. -/
theorem Position.Before.asymm {p q : Position} (h : p.Before q) : ¬ q.Before p := by
  unfold Before at h ⊢
  omega

theorem lastLine_concat (cs : List Char) (c : Char) :
    lastLine (cs ++ [c]) = if c = '\n' then [] else lastLine cs ++ [c] := by
  by_cases h : c = '\n'
  · simp [lastLine, h]
  · simp [lastLine, h]

theorem lastLine_append {cs ds : List Char} (h : '\n' ∉ ds) :
    lastLine (cs ++ ds) = lastLine cs ++ ds := by
  induction ds using List.reverseRecOn with
  | nil => simp
  | append_singleton ds c ih =>
    rw [List.mem_append, not_or, List.mem_singleton] at h
    rw [← List.append_assoc, lastLine_concat, if_neg (Ne.symm h.2), ih h.1, List.append_assoc]

/-- Further characters lead to a later position. -/
theorem Position.behind_before (cs : List Char) {ds : List Char} (h : ds ≠ []) :
    (behind cs).Before (behind (cs ++ ds)) := by
  unfold Before behind
  rw [List.count_append]
  by_cases hbreak : '\n' ∈ ds
  · have hpos := List.count_pos_iff.2 hbreak
    exact .inl (by dsimp only; omega)
  · obtain ⟨d, ds, rfl⟩ := List.exists_cons_of_ne_nil h
    have hsize := d.utf8Size_pos
    rw [List.count_eq_zero_of_not_mem hbreak, lastLine_append hbreak, Text.byteLength_append,
      Text.byteLength_cons]
    exact .inr ⟨rfl, by dsimp only; omega⟩

/-! ## Positions of characters -/

theorem count_lineFeed_encode (cs : List Char) :
    (Text.encode cs).count lineFeed = cs.count '\n' := by
  induction cs using List.reverseRecOn with
  | nil => rfl
  | append_singleton cs c ih =>
    rw [Text.encode_append, Text.encode_singleton, List.count_append, List.count_append, ih]
    by_cases hc : c = '\n'
    · subst hc
      rfl
    · rw [List.count_eq_zero_of_not_mem (lineFeed_not_mem hc), List.count_singleton]
      simp [hc]

/-- From the start of the last line it is as far as that line is long. -/
theorem lastStart_encode (cs : List Char) :
    lastStart (Text.encode cs) + Text.byteLength (lastLine cs) = Text.byteLength cs := by
  induction cs using List.reverseRecOn with
  | nil => rfl
  | append_singleton cs c ih =>
    rw [Text.encode_append, Text.encode_singleton, lastLine_concat]
    by_cases hc : c = '\n'
    · subst hc
      have hbyte : String.utf8EncodeChar '\n' = [lineFeed] := rfl
      rw [hbyte, lastStart_concat, if_pos rfl, if_pos rfl, Text.length_encode,
        Text.byteLength_append]
      rfl
    · rw [lastStart_append _ (lineFeed_not_mem hc), if_neg hc, Text.byteLength_append,
        Text.byteLength_append, ← ih, Nat.add_assoc]

/-- The position at which an offset is looked up is that behind the characters up to
there. -/
theorem LineIndex.position_append (cs ds : List Char) :
    (LineIndex.of (cs ++ ds)).position (Text.byteLength cs) = .behind cs := by
  have hbytes : (Text.encode (cs ++ ds)).take (Text.byteLength cs) = Text.encode cs := by
    rw [Text.encode_append, ← Text.length_encode, List.take_left]
  have hstart := lastStart_encode cs
  rw [position_eq, breaksBefore, startOfLine, hbytes, count_lineFeed_encode, Position.behind,
    Position.mk.injEq]
  constructor
  · omega
  · omega

/-! ## Positions of offsets -/

namespace LineIndex

section

variable (cs : List Char) {offset other : Nat}

/-- A later offset is on a later line, or further behind the same start. -/
theorem position_before (h : offset < other) :
    ((LineIndex.of cs).position offset).Before ((LineIndex.of cs).position other) := by
  have hmono := breaksBefore_mono cs offset (Nat.le_of_lt h)
  rw [position_eq, position_eq]
  rcases Nat.lt_or_eq_of_le hmono with hlt | heq
  · exact .inl (Nat.succ_lt_succ hlt)
  · have hstart : startOfLine cs offset = startOfLine cs other := by
      have hoffset := getElem?_starts cs offset
      rw [heq, getElem?_starts] at hoffset
      exact (Option.some.inj hoffset).symm
    have hle := startOfLine_le cs offset
    refine .inr ⟨congrArg (· + 1) heq, ?_⟩
    dsimp only
    omega

theorem position_before_iff :
    ((LineIndex.of cs).position offset).Before ((LineIndex.of cs).position other)
      ↔ offset < other := by
  refine ⟨fun h => Nat.lt_of_not_le fun hle => ?_, position_before cs⟩
  rcases Nat.lt_or_eq_of_le hle with hlt | rfl
  · exact h.asymm (position_before cs hlt)
  · exact h.asymm h

end

/-- For any offset, be it within a character or past the end, looking it up among the
line starts has one right answer, and by this the position is found: a line that there
is, with a start that is not behind the offset. The line tells how many line feeds come
before the offset, and the column how far the offset is behind the last of them, from
where the offset can be had again. Later offsets have later positions. -/
theorem every_offset_is_told_by_the_line_feeds_before_it (cs : List Char) (offset other : Nat) :
    ∃ p, (LineIndex.of cs).position offset = p ∧
      (∃ l, (∀ l', Lookup.IsRight (LineIndex.of cs).starts offset l' ↔ l' = l) ∧
        (LineIndex.of cs).positionBy? offset l = some p) ∧
      p.line = 1 + breaksBefore cs offset ∧
      (LineIndex.of cs).starts[p.line - 1]? = some (startOfLine cs offset) ∧
      startOfLine cs offset ≤ offset ∧
      p.column = 1 + (offset - startOfLine cs offset) ∧
      startOfLine cs offset + (p.column - 1) = offset ∧
      p.line + p.column ≤ offset + 2 ∧
      (offset < other ↔ p.Before ((LineIndex.of cs).position other)) := by
  refine ⟨_, rfl, exists_lookup cs offset, ?_⟩
  have hline : ((LineIndex.of cs).position offset).line = 1 + breaksBefore cs offset := by
    rw [position_eq, Nat.add_comm]
  have hcolumn : ((LineIndex.of cs).position offset).column
      = 1 + (offset - startOfLine cs offset) := by
    rw [position_eq]
    exact Nat.add_comm _ _
  have hle := startOfLine_le cs offset
  have hbreaks := breaksBefore_le cs offset
  refine ⟨hline, ?_, hle, hcolumn, ?_, ?_, (position_before_iff cs).symm⟩
  · rw [hline, Nat.add_sub_cancel_left]
    exact getElem?_starts cs offset
  · omega
  · omega

end LineIndex

end Wsdl.Xml
