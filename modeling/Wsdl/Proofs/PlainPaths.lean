-- Paths that go through plain names only. Such a path comes back from the IRI
-- of its file, and a reference to it is looked for beside the document that the
-- reference is in.
import Wsdl.Location
import Wsdl.Proofs.FileIris

namespace Wsdl

open Text (encode)

/-- The text of the path that goes through the names, from the root or not. -/
def namesText (rooted : Bool) (names : List (List Char)) : String :=
  String.ofList ((if rooted then ['/'] else []) ++ ['/'].intercalate names)

/-- The path that goes through the names. -/
def FilePath.ofNames (rooted : Bool) (names : List (List Char)) : FilePath :=
  .ofText (namesText rooted names)

/-! ## From IRIs to paths -/

namespace Iri

theorem unescape_slashed {names : List (List Char)} (h : ∀ n ∈ names, IsPlain n) :
    unescape (slashed (names.map (escape pathSet))) = encode (slashed names) := by
  induction names with
  | nil => rw [List.map_nil, slashed_nil, unescape]; rfl
  | cons name names ih =>
    have hrest := ih fun n hn => h n (List.mem_cons_of_mem _ hn)
    have hname := percent_not_mem (h name List.mem_cons_self)
    rw [List.map_cons, slashed_cons, unescape_cons (by decide),
      unescape_escape_append pathSet hname, hrest, ← Text.encode_append]
    rfl

theorem bytes_ofNames {names : List (List Char)} (hne : names ≠ []) :
    (FilePath.ofNames true names).bytes = encode (slashed names) := by
  obtain ⟨name, names, rfl⟩ := List.exists_cons_of_ne_nil hne
  simp [FilePath.ofNames, FilePath.ofText, namesText, Text.encodeText, intercalate_cons]

/-- The path of a file comes back from its IRI. -/
theorem filePath?_fileIri {names : List (List Char)} (hne : names ≠ [])
    (h : ∀ n ∈ names, IsPlain n) : (fileIri names).filePath? = some (.ofNames true names) := by
  have hpath : (⟨encode (slashed names)⟩ : FilePath) = .ofNames true names := by
    rw [← bytes_ofNames hne]
  have hdrive : ∀ c ∈ slashed names, c ≠ ':' ∧ c ≠ '|' := by
    intro c hc
    rcases mem_slashed hc with rfl | ⟨n, hn, hc⟩
    · decide
    · have hmem := ((h n hn).chars c hc).1.2
      simp only [List.mem_cons, not_or] at hmem
      exact ⟨hmem.2.2.2.2.1, hmem.2.2.2.2.2.1⟩
  have hend : ∀ b ∈ encode (slashed names), (b == 0x3A || b == 0x7C) = false := by
    intro b hb
    rw [Bool.or_eq_false_iff, beq_eq_false_iff_ne, beq_eq_false_iff_ne]
    constructor
    · rintro rfl
      exact (hdrive _ (Text.mem_of_mem_encode hb (by decide))).1 rfl
    · rintro rfl
      exact (hdrive _ (Text.mem_of_mem_encode hb (by decide))).2 rfl
  have hhost : ((fileIri names).authority.bind (·.host)) = none := rfl
  have hbytes : unescape (fileIri names).path = encode (slashed names) := unescape_slashed h
  simp only [filePath?, hhost, hbytes, Option.isNone_none, Bool.true_or, if_true]
  split
  · next b a _ _ hreverse =>
    have hb : b ∈ encode (slashed names) := by
      rw [← List.mem_reverse, hreverse]
      exact List.mem_cons_self
    simp [hend b hb, hpath]
  · simp [hpath]

end Iri

namespace FilePath

open Iri (fileIri)

/-! ## From paths to IRIs -/

theorem pieces_of_not_mem {bs : List UInt8} (h : slash ∉ bs) : pieces bs = [bs] := by
  induction bs with
  | nil => rfl
  | cons b bs ih =>
    have hb : b ≠ slash := (List.ne_of_not_mem_cons h).symm
    rw [pieces, if_neg hb, ih (List.not_mem_of_not_mem_cons h)]

theorem pieces_append_cons {bs : List UInt8} (h : slash ∉ bs) (rest : List UInt8) :
    pieces (bs ++ slash :: rest) = bs :: pieces rest := by
  induction bs with
  | nil => rw [List.nil_append, pieces, if_pos rfl]
  | cons b bs ih =>
    have hb : b ≠ slash := (List.ne_of_not_mem_cons h).symm
    rw [List.cons_append, pieces, if_neg hb, ih (List.not_mem_of_not_mem_cons h)]

theorem slash_not_mem {name : List Char} (h : IsPlain name) : slash ∉ encode name := by
  intro hmem
  have hslash := Text.mem_of_mem_encode hmem (by decide)
  exact absurd (h.chars _ hslash).1 (by decide)

theorem encode_slashed (name : List Char) (names : List (List Char)) :
    encode (slashed (name :: names)) = slash :: (encode name ++ encode (slashed names)) := by
  rw [slashed_cons, ← Text.encode_append]
  rfl

theorem pieces_names {name : List Char} {names : List (List Char)}
    (h : ∀ n ∈ name :: names, IsPlain n) :
    pieces (encode name ++ encode (slashed names)) = (name :: names).map encode := by
  induction names generalizing name with
  | nil =>
    rw [slashed_nil, ← Text.encode_append, List.append_nil]
    exact pieces_of_not_mem (slash_not_mem (h name List.mem_cons_self))
  | cons next names ih =>
    rw [encode_slashed, pieces_append_cons (slash_not_mem (h name List.mem_cons_self)),
      ih fun n hn => h n (List.mem_cons_of_mem _ hn)]
    rfl

theorem encode_ne_nil {name : List Char} (h : IsPlain name) : encode name ≠ [] := by
  intro hnil
  exact h.ne_nil (Text.encode_injective (show encode name = encode [] from hnil))

theorem not_isIdle {name : List Char} (h : IsPlain name) : isIdle (encode name) = false := by
  rw [isIdle, Bool.or_eq_false_iff]
  constructor
  · exact List.isEmpty_eq_false_iff.2 (encode_ne_nil h)
  · rw [beq_eq_false_iff_ne]
    intro hdot
    exact h.ne_dot (Text.encode_injective hdot)

theorem names_ofNames {names : List (List Char)} (hne : names ≠ []) (h : ∀ n ∈ names, IsPlain n) :
    (ofNames true names).names = names.map encode := by
  obtain ⟨name, names, rfl⟩ := List.exists_cons_of_ne_nil hne
  rw [FilePath.names, Iri.bytes_ofNames hne, encode_slashed, pieces, if_pos rfl, pieces_names h]
  have hidle : ∀ bs ∈ (name :: names).map encode, (! isIdle bs) = true := by
    intro bs hbs
    obtain ⟨n, hn, rfl⟩ := List.mem_map.1 hbs
    rw [not_isIdle (h n hn)]
    rfl
  rw [List.filter_cons_of_neg (by decide), List.filter_eq_self.2 hidle]

end FilePath

namespace Iri

theorem escape_congr {s t : CharSet} {cs : List Char} (h : ∀ c ∈ cs, s c = t c) :
    escape s cs = escape t cs := by
  induction cs with
  | nil => rfl
  | cons c cs ih =>
    have hrest := ih fun d hd => h d (List.mem_cons_of_mem _ hd)
    simp only [escape, List.flatMap_cons, h c List.mem_cons_self] at hrest ⊢
    rw [hrest]

theorem segmentSet_of_not_ascii {c : Char} (h : 0x7F < c.val.toNat) : segmentSet c = true := by
  have hcontrol : controlSet c = true := by
    have : 0x7F ≤ c.toNat := Nat.le_of_lt h
    simp [controlSet, this]
  simp [segmentSet, pathSet, fragmentSet, CharSet.with, hcontrol]

theorem segmentSet_eq_pathSet {c : Char} (h : IsPlainChar c ∧ c ≠ '%') :
    segmentSet c = pathSet c := by
  have hmem := h.1.2
  simp only [List.mem_cons, not_or] at hmem
  have hmore : "/%\\".toList.contains c = false := by
    simp [hmem.1, hmem.2.1, h.2]
  simp only [segmentSet, CharSet.with, hmore, Bool.or_false]

/-- The IRI of a path through plain names. -/
theorem ofFilePath?_ofNames {names : List (List Char)} (hne : names ≠ [])
    (h : ∀ n ∈ names, IsPlain n) : ofFilePath? (.ofNames true names) = some (fileIri names) := by
  have habsolute : (FilePath.ofNames true names).isAbsolute = true := by
    obtain ⟨name, names, rfl⟩ := List.exists_cons_of_ne_nil hne
    rw [FilePath.isAbsolute, bytes_ofNames hne, FilePath.encode_slashed]
    rfl
  have hnames : ((FilePath.ofNames true names).names.map fun name =>
      '/' :: escapeBytes segmentSet name) = names.map fun name => '/' :: escape pathSet name := by
    rw [FilePath.names_ofNames hne h, List.map_map]
    refine List.map_congr_left fun name hname => ?_
    rw [Function.comp_apply, escapeBytes_encode fun _ => segmentSet_of_not_ascii,
      escape_congr fun c hc => segmentSet_eq_pathSet ((h name hname).chars c hc)]
  have hempty : (names.map fun name => '/' :: escape pathSet name).isEmpty = false := by
    simpa using hne
  have hpath : (names.map fun name => '/' :: escape pathSet name).flatten
      = slashed (names.map (escape pathSet)) := by
    rw [slashed, List.flatMap_map]
    rfl
  simp only [ofFilePath?, habsolute, hnames, hempty, hpath]
  rfl

end Iri

namespace FilePath

/-! ## Joining -/

/-- A path that is a text comes back as that text. -/
theorem text_ofText (s : String) : (ofText s).text = s := by
  rw [ofText, text, Text.encodeText, Text.decodeLossy_encode, String.ofList_toList]

theorem bytes_eq (rooted : Bool) (names : List (List Char)) :
    (ofNames rooted names).bytes
      = encode ((if rooted then ['/'] else []) ++ ['/'].intercalate names) := by
  rw [ofNames, ofText, namesText, Text.encodeText, String.toList_ofList]

theorem slashed_append (names more : List (List Char)) :
    slashed (names ++ more) = slashed names ++ slashed more := List.flatMap_append

theorem exists_last_name {names : List (List Char)} (hne : names ≠ []) :
    ∃ init, ∃ last ∈ names, ['/'].intercalate names = init ++ last := by
  induction names with
  | nil => exact absurd rfl hne
  | cons name names ih =>
    cases names with
    | nil => exact ⟨[], name, List.mem_cons_self, List.intercalate_singleton⟩
    | cons next names =>
      obtain ⟨init, last, hmem, hlast⟩ := ih (List.cons_ne_nil _ _)
      refine ⟨name ++ '/' :: init, last, List.mem_cons_of_mem _ hmem, ?_⟩
      rw [List.intercalate_cons_cons, hlast]
      simp

/-- The last byte of a path is one of its last name. -/
theorem getLast?_bytes (rooted : Bool) {names : List (List Char)} (hne : names ≠ [])
    (h : ∀ n ∈ names, IsPlain n) :
    ∃ b, b ≠ slash ∧ (ofNames rooted names).bytes.getLast? = some b := by
  obtain ⟨init, last, hmem, hlast⟩ := exists_last_name hne
  have hbytes := encode_ne_nil (h last hmem)
  refine ⟨(encode last).getLast hbytes, ?_, ?_⟩
  · intro hslash
    exact slash_not_mem (h last hmem) (hslash ▸ List.getLast_mem hbytes)
  · rw [bytes_eq, hlast, ← List.append_assoc, Text.encode_append, List.getLast?_append,
      List.getLast?_eq_some_getLast hbytes, Option.some_or]

theorem not_isAbsolute {names : List (List Char)} (hne : names ≠ []) (h : ∀ n ∈ names, IsPlain n) :
    (ofNames false names).isAbsolute = false := by
  obtain ⟨name, names, rfl⟩ := List.exists_cons_of_ne_nil hne
  have hname := h name List.mem_cons_self
  obtain ⟨b, bs, hb⟩ := List.exists_cons_of_ne_nil (encode_ne_nil hname)
  have hslash : b ≠ slash := by
    rintro rfl
    exact slash_not_mem hname (hb ▸ List.mem_cons_self)
  have hbytes : (ofNames false (name :: names)).bytes = b :: (bs ++ encode (slashed names)) := by
    rw [bytes_eq, intercalate_cons, if_neg Bool.false_ne_true, List.nil_append,
      Text.encode_append, hb, List.cons_append]
  simp [isAbsolute, hbytes, hslash]

/-- Names that follow a path go on from it. -/
theorem ofNames_join (rooted : Bool) {names more : List (List Char)} (hne : more ≠ [])
    (hnames : ∀ n ∈ names, IsPlain n) (hmore : ∀ n ∈ more, IsPlain n) :
    (ofNames rooted names).join (ofNames false more) = ofNames rooted (names ++ more) := by
  have hext : ∀ p q : FilePath, p.bytes = q.bytes → p = q := by
    rintro ⟨_⟩ ⟨_⟩ h
    exact congrArg _ h
  rw [join, not_isAbsolute hne hmore]
  cases names with
  | nil =>
    apply hext
    cases rooted with
    | false => simp [bytes_eq, encode]
    | true =>
      have hroot : (String.utf8EncodeChar '/').getLast? = some slash := by decide
      simp [bytes_eq, encode, hroot]
  | cons name names =>
    obtain ⟨b, hb, hlast⟩ := getLast?_bytes rooted (List.cons_ne_nil name names) hnames
    obtain ⟨next, more, rfl⟩ := List.exists_cons_of_ne_nil hne
    have hempty : (ofNames rooted (name :: names)).bytes.isEmpty = false := by
      rw [List.isEmpty_eq_false_iff]
      intro hnil
      simp [hnil] at hlast
    have hseparate : (ofNames rooted (name :: names)).bytes ++ slash
        :: (ofNames false (next :: more)).bytes
        = (ofNames rooted (name :: names ++ next :: more)).bytes := by
      have hslash : ∀ cs, encode ('/' :: cs) = slash :: encode cs := fun _ => rfl
      rw [bytes_eq, bytes_eq, bytes_eq, List.cons_append, intercalate_cons, intercalate_cons,
        intercalate_cons, slashed_append, slashed_cons]
      simp [Text.encode_append, hslash]
    apply hext
    simpa [hempty, hlast, hb] using hseparate

end FilePath

namespace Location

/-! ## Locations -/

theorem parse_text_fileIri {names : List (List Char)} (hne : names ≠ [])
    (h : ∀ n ∈ names, IsPlain n) :
    Location.parse (Iri.fileIri names).text = .ok (.path (.ofNames true names)) := by
  have hscheme : (Iri.fileIri names).scheme = "file" := rfl
  simp only [parse, Iri.parse_text_fileIri hne h, hscheme, Iri.filePath?_fileIri hne h, if_true]

theorem mem_namesText {rooted : Bool} {names : List (List Char)} {c : Char}
    (h : c ∈ (namesText rooted names).toList) : c = '/' ∨ ∃ name ∈ names, c ∈ name := by
  rw [namesText, String.toList_ofList, List.mem_append] at h
  rcases h with h | h
  · cases rooted with
    | false => cases h
    | true => exact .inl (List.mem_singleton.1 h)
  · cases names with
    | nil => cases h
    | cons name names =>
      rw [intercalate_cons, List.mem_append] at h
      rcases h with h | h
      · exact .inr ⟨name, List.mem_cons_self, h⟩
      · rcases mem_slashed h with rfl | ⟨n, hn, hc⟩
        · exact .inl rfl
        · exact .inr ⟨n, List.mem_cons_of_mem _ hn, hc⟩

section

variable {rooted : Bool} {names : List (List Char)}

theorem isInner_of_mem_namesText (h : ∀ n ∈ names, IsPlain n) {c : Char}
    (hc : c ∈ (namesText rooted names).toList) :
    0x20 < c.toNat ∧ c ≠ '?' ∧ c ≠ '#' ∧ c ≠ ':' := by
  rcases mem_namesText hc with rfl | ⟨n, hn, hc⟩
  · decide
  · exact ((h n hn).chars c hc).1.isInner

theorem colon_not_mem_namesText (rooted : Bool) (h : ∀ n ∈ names, IsPlain n) :
    ':' ∉ (namesText rooted names).toList := by
  intro hmem
  exact (isInner_of_mem_namesText h hmem).2.2.2 rfl

/-- As a reference, the text of such a path is a body alone. -/
theorem ofText_namesText (h : ∀ n ∈ names, IsPlain n) :
    Iri.Reference.ofText (namesText rooted names)
      = ⟨(namesText rooted names).toList, none, none⟩ := by
  have hinner : ∀ c ∈ (namesText rooted names).toList, 0x20 < c.toNat ∧ c ≠ '?' ∧ c ≠ '#' := by
    intro c hc
    obtain ⟨hedge, hmark, hhash, _⟩ := isInner_of_mem_namesText h hc
    exact ⟨hedge, hmark, hhash⟩
  have hofText := Iri.Reference.ofText_eq hinner
  rwa [String.ofList_toList] at hofText

/-- Without a base, a text that is no IRI is a path. -/
theorem resolve_none {s : String} (h : ':' ∉ s.toList) :
    resolve none s = .ok (.path (.ofText s)) := by
  simp only [resolve, Iri.parse_eq_error h]

theorem resolve_of_join {s : String} {b i : Iri} {f : Iri.Fault} (hs : Iri.parse s = .error f)
    (hjoin : b.join s = .ok i) : resolve (some b) s = parse i.text := by
  have hmapped : (b.join s).mapError Error.iri = .ok i := by
    rw [hjoin]
    rfl
  simp only [resolve, hs, hmapped, bind, Except.bind]

theorem resolve_some {b : Iri} (hb : b.IsLocal) (h : ∀ n ∈ names, IsPlain n)
    {found : List (List Char)} (hne : found ≠ []) (hfound : ∀ n ∈ found, IsPlain n)
    (hfile : Iri.ofFile (some b) ⟨(namesText rooted names).toList, none, none⟩
      = .ok (Iri.fileIri found)) :
    resolve (some b) (namesText rooted names) = .ok (.path (.ofNames true found)) := by
  have hcolon := colon_not_mem_namesText rooted h
  have hjoin := Iri.join_eq hb (ofText_namesText h) hcolon
  rw [resolve_of_join (Iri.parse_eq_error hcolon) (hjoin.trans hfile)]
  exact parse_text_fileIri hne hfound

/-- A path from the root is found at the root. -/
theorem resolve_rooted {b : Iri} (hb : b.IsLocal) (hne : names ≠ [])
    (h : ∀ n ∈ names, IsPlain n) :
    resolve (some b) (namesText true names) = .ok (.path (.ofNames true names)) := by
  refine resolve_some hb h hne h ?_
  obtain ⟨name, names, rfl⟩ := List.exists_cons_of_ne_nil hne
  have htext : (namesText true (name :: names)).toList = slashed (name :: names) := by
    rw [namesText, String.toList_ofList, intercalate_cons]
    rfl
  rw [htext]
  exact Iri.ofFile_slashed hb (h name List.mem_cons_self).ne_nil fun n hn =>
    Iri.isTaken_of_isPlain (h n hn)

/-- Any other path is found beside the document. -/
theorem resolve_names {docs : List (List Char)} {doc : List Char} (hne : names ≠ [])
    (hdocs : ∀ n ∈ docs ++ [doc], IsPlain n) (h : ∀ n ∈ names, IsPlain n) :
    resolve (some (Iri.fileIri (docs ++ [doc]))) (namesText false names)
      = .ok (.path (.ofNames true (docs ++ names))) := by
  have hall : ∀ n ∈ docs ++ names, IsPlain n :=
    List.forall_mem_append.2 ⟨(List.forall_mem_append.1 hdocs).1, h⟩
  have hnonempty : docs ++ names ≠ [] := List.append_ne_nil_of_right_ne_nil _ hne
  refine resolve_some (Iri.isLocal_fileIri hdocs) h hnonempty hall ?_
  obtain ⟨name, names, rfl⟩ := List.exists_cons_of_ne_nil hne
  have htext : (namesText false (name :: names)).toList = name ++ slashed names := by
    rw [namesText, String.toList_ofList, intercalate_cons]
    rfl
  rw [htext]
  exact Iri.ofFile_names hdocs h

end

end Location

end Wsdl
