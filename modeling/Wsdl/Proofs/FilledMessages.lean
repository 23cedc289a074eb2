-- How messages come out. The arguments are written in one after the other, so a
-- mark that an earlier one brings along is filled by the later one it names.
-- Apart from that a message is its template with all its gaps filled at once.
import Wsdl.Proofs.Templates

namespace Wsdl.Message

/-! ## All gaps at once -/

/-- The text with each mark that has an argument replaced by it, read once from
the left. -/
def substitute (args : List String) : List Char → List Char
  | [] => []
  | c :: cs =>
    match args.zipIdx.find? fun x => (gap x.2).isPrefixOf (c :: cs) with
    | some (a, i) => a.toList ++ substitute args (cs.drop ((gap i).length - 1))
    | none => c :: substitute args cs
  termination_by cs => cs.length
  decreasing_by
    · simp only [List.length_drop, List.length_cons]; omega
    · simp

/-- The arguments from the number `i` on, each with the later ones written
into it. -/
def settledFrom (i : Nat) : List String → List String
  | [] => []
  | a :: as => String.ofList (fill (i + 1) as a.toList) :: settledFrom (i + 1) as

def settled (args : List String) : List String := settledFrom 0 args

theorem getElem?_settledFrom (i k : Nat) (args : List String) :
    (settledFrom i args)[k]?
      = args[k]?.map fun a => String.ofList (fill (i + k + 1) (args.drop (k + 1)) a.toList) := by
  induction args generalizing i k with
  | nil => rfl
  | cons a as ih =>
    cases k with
    | zero => rfl
    | succ k =>
      rw [settledFrom, List.getElem?_cons_succ, ih, List.getElem?_cons_succ, List.drop_succ_cons,
        Nat.add_right_comm i 1 k, Nat.add_assoc i k 1]

/-! ## Replacement -/

section

variable {old new xs : List Char} {c : Char}

theorem replaceAll_of_not_isPrefixOf (h : old.isPrefixOf (c :: xs) = false) :
    replaceAll old new (c :: xs) = c :: replaceAll old new xs := by
  rw [replaceAll]
  simp [h]

theorem replaceAll_of_isPrefixOf (hne : old ≠ []) (h : old.isPrefixOf (c :: xs) = true) :
    replaceAll old new (c :: xs) = new ++ replaceAll old new (xs.drop (old.length - 1)) := by
  rw [replaceAll]
  simp [h, hne]

theorem replaceAll_self (hne : old ≠ []) : replaceAll old new old = new := by
  cases old with
  | nil => exact absurd rfl hne
  | cons c cs =>
    rw [replaceAll_of_isPrefixOf hne (List.isPrefixOf_iff_prefix.2 (List.prefix_refl _)),
      List.length_cons, Nat.add_sub_cancel, List.drop_length, replaceAll, List.append_nil]

theorem replaceAll_eq_self (h : ¬ old <:+: xs) : replaceAll old new xs = xs := by
  induction xs with
  | nil => rw [replaceAll]
  | cons c xs ih =>
    have hhead : old.isPrefixOf (c :: xs) = false := by
      rw [← Bool.not_eq_true, List.isPrefixOf_iff_prefix]
      exact fun hp => h hp.isInfix
    rw [replaceAll_of_not_isPrefixOf hhead, ih fun ht => h (List.infix_cons ht)]

/-- An occurrence ends before a character that it does not hold. -/
theorem isPrefixOf_append_cons (hc : c ∉ old) (rest : List Char) :
    old.isPrefixOf (xs ++ c :: rest) = old.isPrefixOf xs := by
  rw [Bool.eq_iff_iff, List.isPrefixOf_iff_prefix, List.isPrefixOf_iff_prefix]
  constructor
  · intro h
    rcases Nat.lt_or_ge xs.length old.length with hlt | hge
    · have hshort : xs ++ [c] <+: xs ++ c :: rest := ⟨rest, by simp⟩
      have hlonger : xs ++ [c] <+: old :=
        List.prefix_of_prefix_length_le hshort h (by simpa [Nat.succ_le_iff] using hlt)
      exact absurd (hlonger.subset (by simp)) hc
    · exact List.prefix_of_prefix_length_le h (List.prefix_append _ _) hge
  · exact fun h => h.trans (List.prefix_append _ _)

theorem replaceAll_append_cons (hne : old ≠ []) (hc : c ∉ old) (xs rest : List Char) :
    replaceAll old new (xs ++ c :: rest)
      = replaceAll old new xs ++ c :: replaceAll old new rest := by
  fun_induction replaceAll old new xs with
  | case1 =>
    have hhead : old.isPrefixOf (c :: rest) = false := by
      have h : old.isPrefixOf ([] ++ c :: rest) = old.isPrefixOf [] :=
        isPrefixOf_append_cons hc rest
      rw [List.nil_append] at h
      rw [h]
      cases old with
      | nil => exact absurd rfl hne
      | cons d ds => rfl
    rw [List.nil_append, replaceAll_of_not_isPrefixOf hhead, List.nil_append]
  | case2 x xs hx ih =>
    have hp : old.isPrefixOf (x :: xs) = true := (Bool.and_eq_true_iff.1 hx).2
    have hlength : old.length - 1 ≤ xs.length := by
      have := (List.isPrefixOf_iff_prefix.1 hp).length_le
      simp only [List.length_cons] at this
      omega
    have hp' : old.isPrefixOf (x :: (xs ++ c :: rest)) = true := by
      rw [← List.cons_append, isPrefixOf_append_cons hc, hp]
    rw [List.cons_append, replaceAll_of_isPrefixOf hne hp', List.drop_append_of_le_length hlength,
      ih, List.append_assoc]
  | case3 x xs hx ih =>
    have hp' : old.isPrefixOf (x :: (xs ++ c :: rest)) = false := by
      rw [← List.cons_append, isPrefixOf_append_cons hc]
      simpa [-List.isPrefixOf_iff_prefix, hne] using hx
    rw [List.cons_append, replaceAll_of_not_isPrefixOf hp', ih, List.cons_append]

end

/-! ## Marks -/

theorem isOfMark_of_mem_gap {c : Char} {i : Nat} (h : c ∈ gap i) : isOfMark c = true := by
  have hc : c = '\x7b' ∨ c ∈ Nat.toDigits 10 i ∨ c = '\x7d' := by simpa [gap] using h
  rcases hc with rfl | hc | rfl
  · rfl
  · simp [isOfMark, Nat.isDigit_of_mem_toDigits (by decide) (by decide) hc]
  · rfl

theorem gap_ne_nil (i : Nat) : gap i ≠ [] := by simp [gap]

/-- A mark starts with the only open brace in it. -/
theorem gap_eq_cons (i : Nat) : ∃ ds, gap i = '\x7b' :: ds ∧ '\x7b' ∉ ds := by
  refine ⟨_, rfl, ?_⟩
  intro h
  rcases List.mem_append.1 h with h | h
  · have hd : '\x7b' ∈ Nat.toDigits 10 i := by simpa using h
    exact absurd (Nat.isDigit_of_mem_toDigits (by decide) (by decide) hd) (by decide)
  · exact absurd (List.mem_singleton.1 h) (by decide)

theorem gap_isPrefixOf_gap_append (i k : Nat) (rest : List Char) :
    (gap i).isPrefixOf (gap k ++ rest) = decide (i = k) := by
  rw [Bool.eq_iff_iff, List.isPrefixOf_iff_prefix, decide_eq_true_iff]
  constructor
  · rintro ⟨t, ht⟩
    have hgaps := congrArg (gapsFrom none) ht
    rw [gapsFrom_gap, gapsFrom_gap] at hgaps
    exact (List.cons.inj hgaps).1
  · rintro rfl
    exact List.prefix_append _ _

/-- No mark is a part of another one. -/
theorem not_gap_infix_gap {i k : Nat} (h : i ≠ k) : ¬ gap i <:+: gap k := by
  rintro ⟨s, t, hst⟩
  obtain ⟨ds, hds, hbrace⟩ := gap_eq_cons k
  cases s with
  | nil =>
    have hp := gap_isPrefixOf_gap_append i k []
    rw [List.append_nil, ← hst, List.nil_append, decide_eq_false h, ← Bool.not_eq_true,
      List.isPrefixOf_iff_prefix] at hp
    exact hp (List.prefix_append _ _)
  | cons c s =>
    obtain ⟨es, hes, -⟩ := gap_eq_cons i
    rw [hds, hes] at hst
    refine hbrace ?_
    rw [← (List.cons.inj hst).2]
    simp

/-! ## Filling -/

section

variable {i : Nat} {as : List String} {c : Char}

theorem fill_append_cons (hc : isOfMark c = false) (i : Nat) (as : List String)
    (xs rest : List Char) : fill i as (xs ++ c :: rest) = fill i as xs ++ c :: fill i as rest := by
  induction as generalizing i xs rest with
  | nil => rfl
  | cons a as ih =>
    have hgap : c ∉ gap i := fun h => by simp [isOfMark_of_mem_gap h] at hc
    rw [fill, replaceAll_append_cons (gap_ne_nil i) hgap, ih]
    rfl

theorem fill_nil (i : Nat) (as : List String) : fill i as [] = [] := by
  induction as generalizing i with
  | nil => rfl
  | cons a as ih => rw [fill, replaceAll, ih]

/-- Characters of no mark stay as they are. -/
theorem fill_append_of_not_isOfMark {p : List Char} (hp : ∀ c ∈ p, isOfMark c = false)
    (rest : List Char) : fill i as (p ++ rest) = p ++ fill i as rest := by
  induction p with
  | nil => rfl
  | cons c p ih =>
    have hc := fill_append_cons (hp c List.mem_cons_self) i as [] (p ++ rest)
    rw [List.nil_append, fill_nil, List.nil_append] at hc
    rw [List.cons_append, hc, ih fun d hd => hp d (List.mem_cons_of_mem _ hd), List.cons_append]

/-- A gap takes its argument, into which those after it are then written. -/
theorem fill_gap {k : Nat} (hk : i ≤ k) :
    fill i as (gap k) = match as[k - i]? with
      | some a => fill (k + 1) (as.drop (k - i + 1)) a.toList
      | none => gap k := by
  induction as generalizing i with
  | nil => rfl
  | cons a as ih =>
    rw [fill]
    rcases Nat.eq_or_lt_of_le hk with rfl | hlt
    · rw [replaceAll_self (gap_ne_nil i), Nat.sub_self]
      rfl
    · rw [replaceAll_eq_self (not_gap_infix_gap (Nat.ne_of_lt hlt)), ih hlt,
        show k - i = k - (i + 1) + 1 by omega, List.getElem?_cons_succ, List.drop_succ_cons]

/-- A text without marks of the arguments is not changed by them. -/
theorem fill_eq_self {xs : List Char}
    (h : ∀ j, i ≤ j → j < i + as.length → ¬ gap j <:+: xs) : fill i as xs = xs := by
  induction as generalizing i with
  | nil => rfl
  | cons a as ih =>
    have hhead : ¬ gap i <:+: xs := h i (Nat.le_refl i) (by simp)
    rw [fill, replaceAll_eq_self hhead]
    exact ih fun j hj hlt => h j (by omega) (by simp only [List.length_cons]; omega)

end

/-! ## Templates -/

theorem weave_eq_cons {ps : List (List Char)} (hne : ps ≠ []) (hps : ∀ p ∈ ps, IsSolid p)
    (between : Nat → List Char) (i : Nat) :
    ∃ c rest, weave between i ps = c :: rest ∧ isOfMark c = false := by
  cases ps with
  | nil => exact absurd rfl hne
  | cons p ps =>
    obtain ⟨hp, hsolid⟩ := hps p List.mem_cons_self
    obtain ⟨c, cs, hcs⟩ := List.exists_cons_of_ne_nil hp
    have hc : isOfMark c = false := hsolid c (by rw [hcs]; exact List.mem_cons_self)
    cases ps with
    | nil => exact ⟨c, cs, hcs, hc⟩
    | cons q qs =>
      exact ⟨c, cs ++ between i ++ weave between (i + 1) (q :: qs), by simp [weave, hcs], hc⟩

/-- To fill a template is to fill what stands between its pieces. -/
theorem fill_weave {ps : List (List Char)} (hps : ∀ p ∈ ps, IsSolid p) (between : Nat → List Char)
    (i k : Nat) (as : List String) :
    fill i as (weave between k ps) = weave (fun n => fill i as (between n)) k ps := by
  fun_induction weave between k ps with
  | case1 => exact fill_nil i as
  | case2 k p =>
    have hp : fill i as (p ++ []) = p ++ fill i as [] :=
      fill_append_of_not_isOfMark (hps p List.mem_cons_self).2 []
    rwa [fill_nil, List.append_nil] at hp
  | case3 k p ps hne ih =>
    have hrest : ∀ q ∈ ps, IsSolid q := fun q hq => hps q (List.mem_cons_of_mem _ hq)
    obtain ⟨c, rest, hweave, hc⟩ := weave_eq_cons hne hrest between (k + 1)
    have hjoint : fill i as (between k ++ weave between (k + 1) ps)
        = fill i as (between k) ++ fill i as (weave between (k + 1) ps) := by
      have hhead := fill_append_cons hc i as [] rest
      rw [List.nil_append, fill_nil, List.nil_append] at hhead
      rw [hweave, fill_append_cons hc, hhead]
    rw [List.append_assoc, fill_append_of_not_isOfMark (hps p List.mem_cons_self).2, hjoint,
      ih hrest, weave.eq_3 _ _ _ _ hne, List.append_assoc]

/-- What is written for a mark: the argument with its number, or the mark
itself. -/
def chosen (args : List String) (k : Nat) : List Char :=
  match args[k]? with
  | some a => a.toList
  | none => gap k

theorem fill_gap_eq_chosen (args : List String) (k : Nat) :
    fill 0 args (gap k) = chosen (settled args) k := by
  rw [fill_gap (Nat.zero_le k), chosen, settled, getElem?_settledFrom, Nat.sub_zero, Nat.zero_add]
  cases args[k]? with
  | none => rfl
  | some a => simp

theorem substitute_cons_of_ne {c : Char} (hc : c ≠ '\x7b') (args : List String) (cs : List Char) :
    substitute args (c :: cs) = c :: substitute args cs := by
  have hnone : (args.zipIdx.find? fun x => (gap x.2).isPrefixOf (c :: cs)) = none := by
    refine List.find?_eq_none.2 fun x _ => ?_
    simp [gap, hc.symm]
  rw [substitute, hnone]

theorem substitute_append_of_not_mem {p : List Char} (hp : '\x7b' ∉ p) (args : List String)
    (rest : List Char) : substitute args (p ++ rest) = p ++ substitute args rest := by
  induction p with
  | nil => rfl
  | cons c p ih =>
    rw [List.cons_append, substitute_cons_of_ne (List.ne_of_not_mem_cons hp).symm,
      ih (List.not_mem_of_not_mem_cons hp), List.cons_append]

theorem find?_zipIdx_eq (args : List String) (n k : Nat) :
    ((args.zipIdx n).find? fun x => decide (x.2 = n + k)) = args[k]?.map fun a => (a, n + k) := by
  induction args generalizing n k with
  | nil => rfl
  | cons a as ih =>
    rw [List.zipIdx_cons]
    cases k with
    | zero => simp
    | succ k =>
      rw [List.find?_cons_of_neg (by simp), List.getElem?_cons_succ,
        show n + (k + 1) = n + 1 + k by omega, ih]

theorem substitute_gap_append (args : List String) (k : Nat) (rest : List Char) :
    substitute args (gap k ++ rest) = chosen args k ++ substitute args rest := by
  obtain ⟨ds, hds, hbrace⟩ := gap_eq_cons k
  have hfind : (args.zipIdx.find? fun x => (gap x.2).isPrefixOf ('\x7b' :: (ds ++ rest)))
      = args[k]?.map fun a => (a, k) := by
    have hzip := find?_zipIdx_eq args 0 k
    simp only [Nat.zero_add] at hzip
    rw [← hzip, ← List.cons_append, ← hds]
    simp only [gap_isPrefixOf_gap_append]
  rw [hds, List.cons_append, substitute, hfind, chosen]
  cases args[k]? with
  | none => simp [substitute_append_of_not_mem hbrace, hds]
  | some a => simp [hds]

/-- To substitute in a template is to choose for each of its gaps. -/
theorem substitute_weave_gap {ps : List (List Char)} (hps : ∀ p ∈ ps, IsSolid p)
    (args : List String) (k : Nat) :
    substitute args (weave gap k ps) = weave (chosen args) k ps := by
  fun_induction weave gap k ps with
  | case1 => rw [substitute, weave]
  | case2 k p =>
    have hp := substitute_append_of_not_mem (hps p List.mem_cons_self).brace_not_mem args []
    rwa [substitute, List.append_nil] at hp
  | case3 k p ps hne ih =>
    rw [List.append_assoc,
      substitute_append_of_not_mem (hps p List.mem_cons_self).brace_not_mem,
      substitute_gap_append, ih fun q hq => hps q (List.mem_cons_of_mem _ hq),
      weave.eq_3 _ _ _ _ hne, List.append_assoc]

/-- Arguments that bring no marks of later ones along are settled as they
are. -/
theorem settled_eq_self {args : List String}
    (h : ∀ i j a, args[i]? = some a → i < j → j < args.length → ¬ gap j <:+: a.toList) :
    settled args = args := by
  refine List.ext_getElem? fun k => ?_
  rw [settled, getElem?_settledFrom]
  cases ha : args[k]? with
  | none => rfl
  | some a =>
    have hfill : fill (0 + k + 1) (args.drop (k + 1)) a.toList = a.toList := by
      refine fill_eq_self fun j hj hlt => h k j a ha (by omega) ?_
      rw [List.length_drop] at hlt
      omega
    rw [Option.map_some, hfill, String.ofList_toList]

/-! ## The law -/

/-- A message is its template with all its gaps filled at once, each with its
argument, into which the later arguments were written before. So it is the
template filled with the arguments as they are if none of them shows the mark of
a later one. -/
theorem a_message_is_filled_with_what_later_arguments_left {id t : String}
    (ht : template? id = some t) (args : List String) :
    text id args = String.ofList (substitute (settled args) t.toList) ∧
      ((∀ i j a, args[i]? = some a → i < j → j < args.length → ¬ gap j <:+: a.toList) →
        text id args = String.ofList (substitute args t.toList)) := by
  have hmessage : text id args = String.ofList (substitute (settled args) t.toList) := by
    obtain ⟨r, -, ps, hsolid, -, hps⟩ := hasGaps_of_template? ht
    have hfill : fill 0 args t.toList = substitute (settled args) t.toList := by
      rw [hps, fill_weave hsolid, substitute_weave_gap hsolid]
      simp only [fill_gap_eq_chosen]
    rw [text, ht, ← hfill]
  refine ⟨hmessage, fun h => ?_⟩
  rw [hmessage, settled_eq_self h]

/-- The template of a repeated operation, with gaps for it and for its
interface. -/
def exampleTemplate : String :=
  "Duplicate interface operation name '\x7b0\x7d' in interface '\x7b1\x7d'."

/-- In the namespace 1 the name of the interface looks like the mark of its own
gap. -/
def exampleNames : List String := [QName.text ⟨some "urn:x", "ask"⟩, QName.text ⟨some "1", "I"⟩]

theorem the_interface_in_the_namespace_1_is_written_out :
    template? "InterfaceOperation-1026" = some exampleTemplate ∧
      text "InterfaceOperation-1026" exampleNames
        = "Duplicate interface operation name '\x7burn:x\x7dask' in interface '\x7b1\x7dI'." := by
  have ht : template? "InterfaceOperation-1026" = some exampleTemplate := rfl
  have hmarks : ∀ i j a, exampleNames[i]? = some a → i < j → j < exampleNames.length →
      ¬ gap j <:+: a.toList := by
    intro i j a ha hij hj
    have hlength : exampleNames.length = 2 := rfl
    obtain ⟨rfl, rfl⟩ : i = 0 ∧ j = 1 := by omega
    obtain rfl := Option.some.inj ha
    decide +kernel
  have hlaw := a_message_is_filled_with_what_later_arguments_left ht exampleNames
  refine ⟨ht, (hlaw.2 hmarks).trans ?_⟩
  decide +kernel

/-- An operation and its interface in the namespace 1. -/
def exampleNamesakes : List String := [QName.text ⟨some "1", "ask"⟩, QName.text ⟨some "1", "I"⟩]

theorem the_namespace_of_the_operation_is_written_over :
    template? "InterfaceOperation-1026" = some exampleTemplate ∧
      text "InterfaceOperation-1026" exampleNamesakes
        ≠ String.ofList (substitute exampleNamesakes exampleTemplate.toList) := by
  constructor
  · rfl
  · decide +kernel

end Wsdl.Message
