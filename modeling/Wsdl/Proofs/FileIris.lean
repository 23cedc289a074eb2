-- The IRIs of files whose paths hold plain names only. Such an IRI comes back
-- from the text of it, and from a reference that is relative to the IRI of
-- another file.
import Wsdl.Iri.Parse
import Wsdl.Proofs.Encoding

namespace Wsdl

open Text (encode)

/-! ## Names with slashes -/

/-- The names, each behind a slash. -/
def slashed (names : List (List Char)) : List Char := names.flatMap ('/' :: ·)

@[simp] theorem slashed_nil : slashed [] = [] := rfl

@[simp] theorem slashed_cons (name : List Char) (names : List (List Char)) :
    slashed (name :: names) = '/' :: (name ++ slashed names) := rfl

theorem mem_slashed {names : List (List Char)} {c : Char} (h : c ∈ slashed names) :
    c = '/' ∨ ∃ name ∈ names, c ∈ name := by
  obtain ⟨name, hname, hc⟩ := List.mem_flatMap.1 h
  rcases List.mem_cons.1 hc with rfl | hc
  · exact .inl rfl
  · exact .inr ⟨name, hname, hc⟩

theorem intercalate_cons (name : List Char) (names : List (List Char)) :
    ['/'].intercalate (name :: names) = name ++ slashed names := by
  induction names generalizing name with
  | nil => simp
  | cons next names ih => rw [List.intercalate_cons_cons, ih, slashed_cons, List.append_assoc]; rfl

theorem Text.splitWhere_of_forall {p : Char → Bool} {name : List Char}
    (h : ∀ c ∈ name, p c = false) : Text.splitWhere p name = [name] := by
  induction name with
  | nil => rfl
  | cons c name ih =>
    rw [Text.splitWhere, h c List.mem_cons_self, ih fun d hd => h d (List.mem_cons_of_mem _ hd)]
    rfl

theorem Text.splitWhere_append_cons {p : Char → Bool} {name : List Char} {sep : Char}
    (h : ∀ c ∈ name, p c = false) (hsep : p sep = true) (rest : List Char) :
    Text.splitWhere p (name ++ sep :: rest) = name :: Text.splitWhere p rest := by
  induction name with
  | nil => simp [Text.splitWhere, hsep]
  | cons c name ih =>
    rw [List.cons_append, Text.splitWhere, h c List.mem_cons_self,
      ih fun d hd => h d (List.mem_cons_of_mem _ hd)]
    rfl

/-- A text is split into the names that it was put together from. -/
theorem Text.splitWhere_slashed {p : Char → Bool} (hslash : p '/' = true) {name : List Char}
    {names : List (List Char)} (h : ∀ n ∈ name :: names, ∀ c ∈ n, p c = false) :
    Text.splitWhere p (name ++ slashed names) = name :: names := by
  induction names generalizing name with
  | nil => simpa using Text.splitWhere_of_forall (h name List.mem_cons_self)
  | cons next names ih =>
    rw [slashed_cons, Text.splitWhere_append_cons (h name List.mem_cons_self) hslash,
      ih fun n hn => h n (List.mem_cons_of_mem _ hn)]

/-! ## Plain names -/

/-- A character that stands for itself wherever it stands in a path. -/
def IsPlainChar (c : Char) : Prop := 0x20 < c.toNat ∧ c ∉ ['/', '\\', '?', '#', ':', '|']

instance (c : Char) : Decidable (IsPlainChar c) := inferInstanceAs (Decidable (_ ∧ _))

/-- Neither an edge of a reference, nor the end of its body, nor that of a
scheme. -/
theorem IsPlainChar.isInner {c : Char} (h : IsPlainChar c) :
    0x20 < c.toNat ∧ c ≠ '?' ∧ c ≠ '#' ∧ c ≠ ':' := by
  have hmem := h.2
  simp only [List.mem_cons, not_or] at hmem
  exact ⟨h.1, hmem.2.2.1, hmem.2.2.2.1, hmem.2.2.2.2.1⟩

/-- A name that stands for itself in a path. Dots alone do not, and a percent
sign might begin an escape. -/
structure IsPlain (name : List Char) : Prop where
  ne_nil : name ≠ []
  chars : ∀ c ∈ name, IsPlainChar c ∧ c ≠ '%'
  ne_dot : name ≠ ['.']
  ne_dotDot : name ≠ ['.', '.']

theorem isPlain_singleton {c : Char} (h : IsPlainChar c) (hpercent : c ≠ '%') (hdot : c ≠ '.') :
    IsPlain [c] where
  ne_nil := List.cons_ne_nil _ _
  chars := by simpa using ⟨h, hpercent⟩
  ne_dot := by simpa using hdot
  ne_dotDot := by simp

namespace Iri

/-- A name that is taken into the path of an IRI with nothing but its escapes
changed. -/
structure IsTaken (name : List Char) : Prop where
  chars : ∀ c ∈ name, IsPlainChar c
  isDot : isDot (escape pathSet name) = false
  isDotDot : isDotDot (escape pathSet name) = false

theorem isTaken_nil : IsTaken [] := ⟨by simp, rfl, rfl⟩

theorem unescape_of_dropDot? {cs rest : List Char} (h : dropDot? cs = some rest) :
    unescape cs = 0x2E :: unescape rest := by
  unfold dropDot? at h
  split at h
  · obtain rfl := Option.some.inj h
    rw [unescape_cons (by decide)]
    rfl
  · split at h
    · next he =>
      obtain rfl := Option.some.inj h
      have hbyte : ∀ e : Char, (e == 'e' || e == 'E') = true → hexByte? '2' e = some 0x2E := by
        intro e he
        rcases Bool.or_eq_true_iff.1 he with h | h
        · obtain rfl := eq_of_beq h
          rfl
        · obtain rfl := eq_of_beq h
          rfl
      rw [unescape, hbyte _ he]
    · cases h
  · cases h

theorem unescape_of_isDot {cs : List Char} (h : isDot cs = true) : unescape cs = encode ['.'] := by
  rw [unescape_of_dropDot? (eq_of_beq h), unescape]
  rfl

theorem unescape_of_isDotDot {cs : List Char} (h : isDotDot cs = true) :
    unescape cs = encode ['.', '.'] := by
  unfold isDotDot at h
  cases hdrop : dropDot? cs with
  | none => simp [hdrop] at h
  | some rest =>
    rw [hdrop] at h
    rw [unescape_of_dropDot? hdrop, unescape_of_isDot h]
    rfl

/-- What an escape is made of is plain and stays as it is. -/
theorem of_mem_escape {name : List Char} (h : ∀ c ∈ name, IsPlainChar c) {c : Char}
    (hc : c ∈ escape pathSet name) : IsPlainChar c ∧ pathSet c = false := by
  have hdigits : ∀ n < 16, IsPlainChar (hexDigit n) ∧ pathSet (hexDigit n) = false := by decide
  rcases mem_escape hc with ⟨hname, hset⟩ | rfl | ⟨n, hn, rfl⟩
  · exact ⟨h c hname, hset⟩
  · decide
  · exact hdigits n hn

theorem escape_escape {name : List Char} (h : ∀ c ∈ name, IsPlainChar c) :
    escape pathSet (escape pathSet name) = escape pathSet name :=
  escape_of_forall fun _ hc => (of_mem_escape h hc).2

theorem escape_ne_nil {s : CharSet} {name : List Char} (h : name ≠ []) : escape s name ≠ [] := by
  obtain ⟨c, rest, rfl⟩ := List.exists_cons_of_ne_nil h
  rw [escape, List.flatMap_cons]
  apply List.append_ne_nil_of_left_ne_nil
  split
  · obtain ⟨b, bs, hb⟩ := List.exists_cons_of_ne_nil (String.utf8EncodeChar_ne_nil (c := c))
    rw [hb]
    exact List.cons_ne_nil _ _
  · exact List.cons_ne_nil _ _

theorem percent_not_mem {name : List Char} (h : IsPlain name) : '%' ∉ name := by
  intro hmem
  exact (h.chars '%' hmem).2 rfl

/-- A plain name is taken as it is. -/
theorem isTaken_of_isPlain {name : List Char} (h : IsPlain name) : IsTaken name where
  chars c hc := (h.chars c hc).1
  isDot := by
    apply Bool.eq_false_iff.2
    intro hdot
    have hbytes := unescape_of_isDot hdot
    rw [unescape_escape pathSet (percent_not_mem h)] at hbytes
    exact h.ne_dot (Text.encode_injective hbytes)
  isDotDot := by
    apply Bool.eq_false_iff.2
    intro hdots
    have hbytes := unescape_of_isDotDot hdots
    rw [unescape_escape pathSet (percent_not_mem h)] at hbytes
    exact h.ne_dotDot (Text.encode_injective hbytes)

/-- So is a name that has been escaped. -/
theorem IsTaken.escape {name : List Char} (h : IsTaken name) : IsTaken (escape pathSet name) where
  chars _ hc := (of_mem_escape h.chars hc).1
  isDot := by rw [escape_escape h.chars]; exact h.isDot
  isDotDot := by rw [escape_escape h.chars]; exact h.isDotDot

/-! ## Reading a path of such names -/

section

variable {name : List Char} {names : List (List Char)}

theorem IsTaken.not_isSlash (h : IsTaken name) : ∀ c ∈ name, isSlash c = false := by
  intro c hc
  have hmem := (h.chars c hc).2
  simp only [List.mem_cons, not_or] at hmem
  simp [isSlash, hmem.1, hmem.2.1]

theorem IsTaken.not_isBreak (h : IsTaken name) : ∀ c ∈ name, isBreak c = false := by
  intro c hc
  have hspace := (h.chars c hc).1
  simp only [isBreak, Bool.or_eq_false_iff, beq_eq_false_iff_ne]
  refine ⟨⟨?_, ?_⟩, ?_⟩
  all_goals
    rintro rfl
    exact absurd hspace (by decide)

theorem IsTaken.joined_eq (h : IsTaken name) : joined name = name := by
  apply List.filter_eq_self.2
  intro c hc
  rw [h.not_isBreak c hc]
  rfl

theorem IsTaken.colon_not_mem (h : IsTaken name) : ':' ∉ name := by
  intro hmem
  exact absurd (h.chars ':' hmem) (by decide)

theorem IsTaken.not_isDrive (h : IsTaken name) : isDrive name = false := by
  apply Bool.eq_false_iff.2
  intro hdrive
  unfold isDrive at hdrive
  split at hdrive
  · next a b =>
    have hb := h.chars b (by simp)
    rcases Bool.or_eq_true_iff.1 (Bool.and_eq_true_iff.1 hdrive).2 with hcolon | hbar
    · obtain rfl := eq_of_beq hcolon
      exact absurd hb (by decide)
    · obtain rfl := eq_of_beq hbar
      exact absurd hb (by decide)
  · cases hdrive

theorem IsTaken.cutDrive? (h : IsTaken name) : cutDrive? name = none := by
  rw [Iri.cutDrive?, Text.cutAt_eq_none_iff.2 h.colon_not_mem]

namespace PathDraft

theorem add_of_isTaken {d : PathDraft} (hopen : d.isOpen = false) (h : IsTaken name) :
    d.add .file name = { d with names := escape pathSet name :: d.names } := by
  have hpush : ∀ written, d.push written = { d with names := written :: d.names } := by
    intro written
    simp [push, hopen]
  have hfirst : d.addFirst name = d.push (Iri.escape pathSet name) := by
    simp only [addFirst, h.joined_eq, h.cutDrive?, h.escape.not_isDrive, Bool.false_eq_true,
      if_false]
  simp only [add, h.joined_eq, h.isDot, h.isDotDot, hfirst, hpush, Bool.false_eq_true, if_false,
    ite_self]

theorem addAll_of_isTaken {d : PathDraft} (hopen : d.isOpen = false)
    (h : ∀ n ∈ name :: names, IsTaken n) :
    d.addAll .file (name :: names)
      = { d with names := ((name :: names).map (escape pathSet)).reverse ++ d.names } := by
  induction names generalizing d name with
  | nil =>
    have hname := h name List.mem_cons_self
    simp only [addAll, addLast, hname.joined_eq, hname.isDot, hname.isDotDot,
      add_of_isTaken hopen hname, Bool.or_self, Bool.and_false, Bool.false_eq_true, if_false]
    rfl
  | cons next names ih =>
    have hnext : ({ d with names := escape pathSet name :: d.names } : PathDraft).isOpen = false :=
      hopen
    rw [addAll, add_of_isTaken hopen (h name List.mem_cons_self),
      ih hnext fun n hn => h n (List.mem_cons_of_mem _ hn)]
    · simp
    · exact List.cons_ne_nil _ _

end PathDraft

/-- A path of such names has their escapes, behind what it goes on from. -/
theorem readPath_slashed {d : PathDraft} (hopen : d.isOpen = false) (hdrive : d.hasDrive = false)
    (h : ∀ n ∈ name :: names, IsTaken n) :
    readPath .file d (name ++ slashed names)
      = (withOneSlash (['/'].intercalate
          (d.names.reverse ++ (name :: names).map (escape pathSet))), false) := by
  have hsplit : splitPath .file (name ++ slashed names) = name :: names := by
    apply Text.splitWhere_slashed rfl
    intro n hn c hc
    exact (h n hn).not_isSlash c hc
  rw [readPath, hsplit, PathDraft.addAll_of_isTaken hopen h]
  simp [PathDraft.text, hdrive]

theorem withOneSlash_slashed (hne : name ≠ []) (h : IsTaken name) :
    withOneSlash (slashed (name :: names)) = slashed (name :: names) := by
  cases name with
  | nil => exact absurd rfl hne
  | cons c name =>
    have hc := h.not_isSlash c List.mem_cons_self
    have hslash : (c == '/') = false := by
      simp only [isSlash, Bool.or_eq_false_iff] at hc
      exact hc.1
    simp [withOneSlash, hslash]

/-- From the root on, the path has the escaped names. -/
theorem readPath_root (hne : name ≠ []) (h : ∀ n ∈ name :: names, IsTaken n) :
    (readPath .file .root (name ++ slashed names)).1
      = slashed ((name :: names).map (escape pathSet)) := by
  have hroot : ['/'].intercalate
      (PathDraft.root.names.reverse ++ (name :: names).map (escape pathSet))
      = slashed ((name :: names).map (escape pathSet)) := intercalate_cons _ _
  rw [readPath_slashed rfl rfl h, hroot]
  exact withOneSlash_slashed (escape_ne_nil hne) (h name List.mem_cons_self).escape

/-- A slash in front of the first name makes no difference. -/
theorem readPath_root_slashed (hne : name ≠ []) (h : ∀ n ∈ name :: names, IsTaken n) :
    (readPath .file .root (slashed (name :: names))).1
      = slashed ((name :: names).map (escape pathSet)) := by
  have htaken : ∀ n ∈ [] :: name :: names, IsTaken n := List.forall_mem_cons.2 ⟨isTaken_nil, h⟩
  have hroot : ['/'].intercalate
      (PathDraft.root.names.reverse ++ ([] :: name :: names).map (escape pathSet))
      = '/' :: slashed ((name :: names).map (escape pathSet)) := intercalate_cons _ _
  have hread := readPath_slashed (d := .root) rfl rfl htaken
  rw [List.nil_append] at hread
  rw [hread, hroot]
  exact withOneSlash_slashed (escape_ne_nil hne) (h name List.mem_cons_self).escape

end

/-! ## IRIs of files -/

/-- The IRI of a file on this machine whose path goes through the names. -/
def fileIri (names : List (List Char)) : Iri :=
  ⟨"file", some .empty, slashed (names.map (escape pathSet)), none, none⟩

/-- The IRI of a file on this machine, outside of any drive. -/
structure IsLocal (b : Iri) : Prop where
  scheme : b.scheme = "file"
  authority : b.authority = some .empty
  noDrive : ((pathNames b.path).drop 1).head?.filter isPlainDrive = none

section

variable {names : List (List Char)}

/-- A text of such names has neither edges nor a query nor a fragment. -/
theorem Reference.ofText_eq {cs : List Char}
    (h : ∀ c ∈ cs, 0x20 < c.toNat ∧ c ≠ '?' ∧ c ≠ '#') :
    Reference.ofText (String.ofList cs) = ⟨cs, none, none⟩ := by
  have hedge : ∀ ds : List Char, (∀ c ∈ ds, c ∈ cs) → ds.dropWhile isEdge = ds := by
    intro ds hds
    cases ds with
    | nil => rfl
    | cons c ds =>
      have hc := (h c (hds c List.mem_cons_self)).1
      have : isEdge c = false := by simpa [isEdge] using hc
      simp [List.dropWhile, this]
  have hright : Text.dropRight isEdge cs = cs := by
    rw [Text.dropRight, hedge _ (by simp), List.reverse_reverse]
  have hhash : Text.cutAt '#' cs = none :=
    Text.cutAt_eq_none_iff.2 fun hmem => (h _ hmem).2.2 rfl
  have hmark : Text.cutAt '?' cs = none :=
    Text.cutAt_eq_none_iff.2 fun hmem => (h _ hmem).2.1 rfl
  simp [ofText, hedge cs (fun _ hc => hc), hright, cut, hhash, hmark]

theorem cutScheme_of_not_mem {cs : List Char} (h : ':' ∉ cs) : cutScheme cs = none := by
  rw [cutScheme, Text.cutAt_eq_none_iff.2 h]

theorem Reference.mem_of_mem_body {s : String} {c : Char} (h : c ∈ (ofText s).body) :
    c ∈ s.toList := by
  have hcut : ∀ (d : Char) (cs : List Char), c ∈ (cut d cs).1 → c ∈ cs := by
    intro d cs hc
    unfold cut at hc
    split at hc
    · next hcut =>
      rw [(Text.cutAt_eq_some hcut).1]
      exact List.mem_append_left _ hc
    · exact hc
  have hinner := hcut _ _ (hcut _ _ h)
  have hright := (List.dropWhile_suffix _).subset (List.mem_reverse.1 hinner)
  exact (List.dropWhile_suffix _).subset (List.mem_reverse.1 hright)

/-- A text without a colon is no IRI. -/
theorem parse_eq_error {s : String} (h : ':' ∉ s.toList) :
    parse s = .error .relativeWithoutBase := by
  have hscheme := cutScheme_of_not_mem fun hmem => h (Reference.mem_of_mem_body hmem)
  simp only [parse, resolve, hscheme]

variable {name : List Char} {b : Iri}

theorem startsWithDrive_eq_false (h : IsTaken name) (names : List (List Char)) :
    startsWithDrive (name ++ slashed names) = false := by
  have htake : (name ++ slashed names).takeWhile (! isSlash ·) = name := by
    rw [List.takeWhile_append_of_pos fun c hc => by rw [h.not_isSlash c hc]; rfl]
    cases names <;> simp [isSlash]
  rw [startsWithDrive, htake, h.joined_eq, h.not_isDrive]

/-- What an IRI of a file is read from has the IRI's host and nothing behind
its path. -/
theorem ofFile_slashed (hb : IsLocal b) (hne : name ≠ [])
    (h : ∀ n ∈ name :: names, IsTaken n) :
    Iri.ofFile (some b) ⟨slashed (name :: names), none, none⟩ = .ok (fileIri (name :: names)) := by
  have hname := h name List.mem_cons_self
  obtain ⟨c, rest, rfl⟩ := List.exists_cons_of_ne_nil hne
  have hbreak := hname.not_isBreak c List.mem_cons_self
  have hslash := hname.not_isSlash c List.mem_cons_self
  have hdrive := startsWithDrive_eq_false hname names
  have hdrop : (c :: (rest ++ slashed names)).dropWhile isBreak = c :: (rest ++ slashed names) := by
    simp [List.dropWhile, hbreak]
  have hpath := readPath_root hne h
  have hbody : (slashed ((c :: rest) :: names)).dropWhile isBreak
      = '/' :: c :: (rest ++ slashed names) := rfl
  have hhost : ((some b).bind (·.authority)).bind (·.host) = none := by
    rw [Option.bind_some, hb.authority]
    rfl
  have hfirst : ((some b).bind fun b => ((pathNames b.path).drop 1).head?).filter isPlainDrive
      = none := hb.noDrive
  rw [List.cons_append] at hpath hdrive
  simp only [Iri.ofFile, hbody, hdrop, hdrive, hfirst, hhost, hslash, hpath, List.head?_cons,
    Option.any_some]
  rfl

/-! ### From a text -/

theorem cutScheme_file (rest : List Char) :
    cutScheme ('f' :: 'i' :: 'l' :: 'e' :: ':' :: rest) = some ("file", rest) := by
  rfl

theorem text_fileIri (names : List (List Char)) :
    (fileIri names).text
      = String.ofList ('f' :: 'i' :: 'l' :: 'e' :: ':' :: '/' :: '/'
          :: slashed (names.map (escape pathSet))) := by
  simp [text, headText, fileIri, Authority.text, Authority.empty]

/-- Two slashes and a path give no host. -/
theorem ofFile_text (hne : name ≠ []) (h : ∀ n ∈ name :: names, IsTaken n) :
    Iri.ofFile none ⟨'/' :: '/' :: slashed (name :: names), none, none⟩
      = .ok (fileIri (name :: names)) := by
  have hpath := readPath_root_slashed hne h
  have hbody : ('/' :: '/' :: slashed (name :: names)).dropWhile isBreak
      = '/' :: '/' :: slashed (name :: names) := rfl
  have hnext : ('/' :: slashed (name :: names)).dropWhile isBreak
      = '/' :: slashed (name :: names) := rfl
  have hwritten : (slashed (name :: names)).takeWhile (! isSlash ·) = [] := rfl
  have hrest : (slashed (name :: names)).dropWhile (! isSlash ·) = slashed (name :: names) := rfl
  have hslash : isSlash '/' = true := rfl
  have hdrive : isDrive (joined []) = false := rfl
  have hhost : readFileHost (joined []) = .ok none := rfl
  simp only [Iri.ofFile, hbody, hnext, hslash, List.head?_cons, Option.any_some, List.drop_one,
    List.tail_cons, hwritten, hdrive, hrest, hhost, hpath, if_true]
  rfl

theorem isInner_of_mem_slashed (h : ∀ n ∈ names, IsTaken n) {c : Char} (hc : c ∈ slashed names) :
    0x20 < c.toNat ∧ c ≠ '?' ∧ c ≠ '#' ∧ c ≠ ':' := by
  rcases mem_slashed hc with rfl | ⟨n, hn, hc⟩
  · decide
  · exact ((h n hn).chars c hc).isInner

theorem ofText_fileIri (h : ∀ n ∈ names.map (escape pathSet), IsTaken n) :
    Reference.ofText (fileIri names).text
      = ⟨'f' :: 'i' :: 'l' :: 'e' :: ':' :: '/' :: '/' :: slashed (names.map (escape pathSet)),
          none, none⟩ := by
  rw [text_fileIri]
  apply Reference.ofText_eq
  intro c hc
  have hsplit : c ∈ ['f', 'i', 'l', 'e', ':', '/', '/'] ++ slashed (names.map (escape pathSet)) :=
    hc
  rcases List.mem_append.1 hsplit with hc | hc
  · simp only [List.mem_cons, List.not_mem_nil, or_false] at hc
    rcases hc with rfl | rfl | rfl | rfl | rfl | rfl | rfl <;> decide
  · obtain ⟨hedge, hmark, hhash, _⟩ := isInner_of_mem_slashed h hc
    exact ⟨hedge, hmark, hhash⟩

/-- The IRI of a file comes back from its text. -/
theorem parse_text_fileIri (hne : names ≠ []) (h : ∀ n ∈ names, IsPlain n) :
    Iri.parse (fileIri names).text = .ok (fileIri names) := by
  obtain ⟨name, names, rfl⟩ := List.exists_cons_of_ne_nil hne
  have hescaped : ∀ n ∈ (name :: names).map (escape pathSet), IsTaken n := by
    intro n hn
    obtain ⟨m, hm, rfl⟩ := List.mem_map.1 hn
    exact (isTaken_of_isPlain (h m hm)).escape
  have hagain : ((name :: names).map (escape pathSet)).map (escape pathSet)
      = (name :: names).map (escape pathSet) := by
    rw [List.map_map]
    refine List.map_congr_left fun n hn => ?_
    exact escape_escape (isTaken_of_isPlain (h n hn)).chars
  have hfirst : escape pathSet name ≠ [] := escape_ne_nil (h name List.mem_cons_self).ne_nil
  have hkind : kindOf "file" = .file := rfl
  have hfile := ofFile_text hfirst hescaped
  rw [fileIri, ← List.map_cons, hagain] at hfile
  simp only [parse, resolve, ofText_fileIri hescaped, cutScheme_file, ofSchemeBody, hkind]
  exact hfile

/-! ### From a reference -/

theorem IsTaken.not_isPlainDrive (h : IsTaken name) : isPlainDrive name = false := by
  apply Bool.eq_false_iff.2
  intro hdrive
  unfold isPlainDrive at hdrive
  split at hdrive
  · exact absurd (h.chars ':' (by simp)) (by decide)
  · cases hdrive

theorem pathNames_fileIri (h : ∀ n ∈ names, IsPlain n) :
    pathNames (fileIri names).path = [] :: names.map (escape pathSet) := by
  show Text.splitWhere (· == '/') ([] ++ slashed (names.map (escape pathSet))) = _
  apply Text.splitWhere_slashed rfl
  intro n hn c hc
  rcases List.mem_cons.1 hn with rfl | hn
  · cases hc
  · obtain ⟨m, hm, rfl⟩ := List.mem_map.1 hn
    have hslash := (isTaken_of_isPlain (h m hm)).escape.not_isSlash c hc
    simp only [isSlash, Bool.or_eq_false_iff] at hslash
    exact hslash.1

theorem isLocal_fileIri (h : ∀ n ∈ names, IsPlain n) : IsLocal (fileIri names) where
  scheme := rfl
  authority := rfl
  noDrive := by
    rw [pathNames_fileIri h]
    cases names with
    | nil => rfl
    | cons name names =>
      have hdrive := (isTaken_of_isPlain (h name List.mem_cons_self)).escape.not_isPlainDrive
      simp [Option.filter, hdrive]

theorem withOneSlash_escaped (h : ∀ n ∈ names, IsPlain n) (hne : names ≠ []) :
    withOneSlash (slashed (names.map (escape pathSet))) = slashed (names.map (escape pathSet)) := by
  obtain ⟨name, names, rfl⟩ := List.exists_cons_of_ne_nil hne
  have hname := h name List.mem_cons_self
  exact withOneSlash_slashed (escape_ne_nil hname.ne_nil) (isTaken_of_isPlain hname).escape

/-- What goes on from a file goes on from the names before its last one. -/
theorem after_fileIri {docs : List (List Char)} {doc : List Char}
    (h : ∀ n ∈ docs ++ [doc], IsPlain n) :
    PathDraft.after .file (fileIri (docs ++ [doc])).path
      = { PathDraft.root with names := (docs.map (escape pathSet)).reverse ++ [[]] } := by
  have hdoc : IsPlain doc := h doc (by simp)
  have hdrive := (isTaken_of_isPlain hdoc).escape.not_isPlainDrive
  have hnames : (pathNames (fileIri (docs ++ [doc])).path).reverse
      = escape pathSet doc :: ((docs.map (escape pathSet)).reverse ++ [[]]) := by
    rw [pathNames_fileIri h]
    simp
  rw [PathDraft.after, hnames]
  simp [hdrive]

/-- A reference to names goes on from the names before the last one. -/
theorem ofFile_names {docs : List (List Char)} {doc : List Char}
    (hdocs : ∀ n ∈ docs ++ [doc], IsPlain n) (h : ∀ n ∈ name :: names, IsPlain n) :
    Iri.ofFile (some (fileIri (docs ++ [doc]))) ⟨name ++ slashed names, none, none⟩
      = .ok (fileIri (docs ++ name :: names)) := by
  have htaken : ∀ n ∈ name :: names, IsTaken n := fun n hn => isTaken_of_isPlain (h n hn)
  have hall : ∀ n ∈ docs ++ name :: names, IsPlain n :=
    List.forall_mem_append.2 ⟨(List.forall_mem_append.1 hdocs).1, h⟩
  have hpath : (readPath .file (.after .file (fileIri (docs ++ [doc])).path)
      (name ++ slashed names)).1 = slashed ((docs ++ name :: names).map (escape pathSet)) := by
    have hnames : ((docs.map (escape pathSet)).reverse ++ [[]]).reverse
        ++ (name :: names).map (escape pathSet)
        = [] :: (docs ++ name :: names).map (escape pathSet) := by simp
    rw [after_fileIri hdocs, readPath_slashed rfl rfl htaken, hnames, intercalate_cons]
    exact withOneSlash_escaped hall (by simp)
  have hname := htaken name List.mem_cons_self
  have hdrive := startsWithDrive_eq_false hname names
  obtain ⟨c, rest, rfl⟩ := List.exists_cons_of_ne_nil (h name List.mem_cons_self).ne_nil
  have hbreak := hname.not_isBreak c List.mem_cons_self
  have hslash := hname.not_isSlash c List.mem_cons_self
  have hdrop : ((c :: rest) ++ slashed names).dropWhile isBreak = c :: (rest ++ slashed names) := by
    simp [hbreak]
  simp only [Iri.ofFile, hdrop, hslash, hdrive, hpath]
  rfl

theorem join_eq (hb : IsLocal b) {s : String} {r : Reference} (hs : Reference.ofText s = r)
    (hcolon : ':' ∉ r.body) : b.join s = Iri.ofFile (some b) r := by
  have hopaque : b.isOpaque = false := by
    rw [isOpaque, hb.authority]
    rfl
  have hkind : kindOf b.scheme = .file := by
    rw [hb.scheme]
    rfl
  simp [join, resolve, hs, cutScheme_of_not_mem hcolon, hopaque, hkind]

end

end Iri

end Wsdl
