-- What a text is written as, and that it comes back from there: the bytes of
-- its characters, and the escapes of those that may not stand in an IRI.
import Wsdl.Iri.Percent

namespace Wsdl.Text

/-! ## Lead bytes and what follows -/

theorem followers_of_two : ∀ k < 32, 2 ≤ k →
    followers (.ofNat (k + 0xC0)) = some (1, 0x80, 0xBF) ∧ leadBits (.ofNat (k + 0xC0)) = k := by
  decide

/-- The bounds of the second byte keep overlong forms and surrogates out. -/
theorem followers_of_three : ∀ k < 16,
    followers (.ofNat (k + 0xE0))
        = some (2, if k = 0 then 0xA0 else 0x80, if k = 13 then 0x9F else 0xBF) ∧
      leadBits (.ofNat (k + 0xE0)) = k := by decide

theorem followers_of_four : ∀ k < 5,
    followers (.ofNat (k + 0xF0))
        = some (3, if k = 0 then 0x90 else 0x80, if k = 4 then 0x8F else 0xBF) ∧
      leadBits (.ofNat (k + 0xF0)) = k := by decide

theorem toNat_following {k : Nat} (hk : k < 64) : (UInt8.ofNat (k + 0x80)).toNat = k + 0x80 := by
  rw [UInt8.toNat_ofNat']
  omega

/-- A byte that follows is within the bounds, and its bits come in. -/
theorem readFollowers_following {code n k : Nat} {lo hi : UInt8} (bs : List UInt8) (hk : k < 64)
    (hlo : lo.toNat ≤ k + 0x80) (hhi : k + 0x80 ≤ hi.toNat) :
    readFollowers code (n + 1) lo hi (.ofNat (k + 0x80) :: bs)
      = ((readFollowers (code * 64 + k) n 0x80 0xBF bs).1,
         (readFollowers (code * 64 + k) n 0x80 0xBF bs).2 + 1) := by
  have hbits : (UInt8.ofNat (k + 0x80)).toNat % 64 = k := by
    rw [toNat_following hk]
    omega
  have hlo' : lo ≤ .ofNat (k + 0x80) := by rwa [UInt8.le_iff_toNat_le, toNat_following hk]
  have hhi' : .ofNat (k + 0x80) ≤ hi := by rwa [UInt8.le_iff_toNat_le, toNat_following hk]
  simp only [readFollowers, hlo', hhi', hbits, decide_true, Bool.and_self, if_true]

/-! ## One character -/

section

variable {c : Char} (bs : List UInt8)

theorem decodeFirst_of_followers {b : UInt8} {bs : List UInt8} {n k : Nat} {lo hi : UInt8}
    (hb : 0x80 ≤ b.toNat) (hfollowers : followers b = some (n, lo, hi))
    (hread : readFollowers (leadBits b) n lo hi bs = (some c.val.toNat, k)) :
    decodeFirst b bs = (some c, k) := by
  have hlead : ¬ b < 0x80 := by
    rw [UInt8.lt_iff_toNat_lt]
    exact Nat.not_lt.2 hb
  have hchar : Char.ofNat c.val.toNat = c := Char.ofNat_toNat c
  simp only [decodeFirst, hlead, hfollowers, hread, if_false, Option.map_some, hchar]

/-- The byte of an ASCII character has its number. -/
theorem toNat_ofNat_of_ascii (h : c.val.toNat ≤ 0x7F) :
    (UInt8.ofNat c.val.toNat).toNat = c.val.toNat := by
  rw [UInt8.toNat_ofNat']
  omega

theorem lt_of_ascii (h : c.val.toNat ≤ 0x7F) : UInt8.ofNat c.val.toNat < 0x80 := by
  rw [UInt8.lt_iff_toNat_lt, toNat_ofNat_of_ascii h]
  exact Nat.lt_succ_of_le h

theorem ofNat_toNat_of_ascii (h : c.val.toNat ≤ 0x7F) :
    Char.ofNat (UInt8.ofNat c.val.toNat).toNat = c := by
  rw [toNat_ofNat_of_ascii h]
  exact Char.ofNat_toNat c

theorem decodeFirst_one (h : c.val.toNat ≤ 0x7F) :
    decodeFirst (.ofNat c.val.toNat) bs = (some c, 0) := by
  simp only [decodeFirst, lt_of_ascii h, if_true, ofNat_toNat_of_ascii h]

theorem decodeFirst_two (hlow : 0x7F < c.val.toNat) (hhigh : c.val.toNat ≤ 0x7FF) :
    decodeFirst (.ofNat (c.val.toNat / 64 % 32 + 0xC0))
      (.ofNat (c.val.toNat % 64 + 0x80) :: bs) = (some c, 1) := by
  obtain ⟨hfollowers, hlead⟩ := followers_of_two (c.val.toNat / 64 % 32) (by omega) (by omega)
  have hcode : c.val.toNat / 64 % 32 * 64 + c.val.toNat % 64 = c.val.toNat := by omega
  refine decodeFirst_of_followers ?_ hfollowers ?_
  · rw [UInt8.toNat_ofNat']
    omega
  · rw [hlead,
      readFollowers_following _ (by omega) (Nat.le_add_left _ _) (by show _ ≤ 0xBF; omega), hcode]
    rfl

theorem decodeFirst_three (hlow : 0x7FF < c.val.toNat) (hhigh : c.val.toNat ≤ 0xFFFF) :
    decodeFirst (.ofNat (c.val.toNat / 4096 % 16 + 0xE0))
      (.ofNat (c.val.toNat / 64 % 64 + 0x80) :: .ofNat (c.val.toNat % 64 + 0x80) :: bs)
      = (some c, 2) := by
  have hvalid : c.val.toNat < 0xD800 ∨ (0xDFFF < c.val.toNat ∧ c.val.toNat < 0x110000) := c.valid
  obtain ⟨hfollowers, hlead⟩ := followers_of_three (c.val.toNat / 4096 % 16) (by omega)
  have hcode : (c.val.toNat / 4096 % 16 * 64 + c.val.toNat / 64 % 64) * 64 + c.val.toNat % 64
      = c.val.toNat := by omega
  refine decodeFirst_of_followers ?_ hfollowers ?_
  · rw [UInt8.toNat_ofNat']
    omega
  · rw [hlead, readFollowers_following _ (by omega) ?_ ?_,
      readFollowers_following _ (by omega) (Nat.le_add_left _ _) (by show _ ≤ 0xBF; omega), hcode]
    · rfl
    · split
      · show 0xA0 ≤ _
        omega
      · exact Nat.le_add_left _ _
    · split
      · show _ ≤ 0x9F
        omega
      · show _ ≤ 0xBF
        omega

theorem decodeFirst_four (hlow : 0xFFFF < c.val.toNat) :
    decodeFirst (.ofNat (c.val.toNat / 262144 % 8 + 0xF0))
      (.ofNat (c.val.toNat / 4096 % 64 + 0x80) :: .ofNat (c.val.toNat / 64 % 64 + 0x80)
        :: .ofNat (c.val.toNat % 64 + 0x80) :: bs)
      = (some c, 3) := by
  have hvalid : c.val.toNat < 0xD800 ∨ (0xDFFF < c.val.toNat ∧ c.val.toNat < 0x110000) := c.valid
  obtain ⟨hfollowers, hlead⟩ := followers_of_four (c.val.toNat / 262144 % 8) (by omega)
  have hcode : ((c.val.toNat / 262144 % 8 * 64 + c.val.toNat / 4096 % 64) * 64
      + c.val.toNat / 64 % 64) * 64 + c.val.toNat % 64 = c.val.toNat := by omega
  refine decodeFirst_of_followers ?_ hfollowers ?_
  · rw [UInt8.toNat_ofNat']
    omega
  · rw [hlead, readFollowers_following _ (by omega) ?_ ?_,
      readFollowers_following _ (by omega) (Nat.le_add_left _ _) (by show _ ≤ 0xBF; omega),
      readFollowers_following _ (by omega) (Nat.le_add_left _ _) (by show _ ≤ 0xBF; omega), hcode]
    · rfl
    · split
      · show 0x90 ≤ _
        omega
      · exact Nat.le_add_left _ _
    · split
      · show _ ≤ 0x8F
        omega
      · show _ ≤ 0xBF
        omega

/-- The bytes of a character are read as that character, whatever follows. -/
theorem decodeFirst_utf8EncodeChar (c : Char) :
    ∃ b rest, String.utf8EncodeChar c = b :: rest ∧
      decodeFirst b (rest ++ bs) = (some c, rest.length) := by
  unfold String.utf8EncodeChar
  simp only
  split
  next hone => exact ⟨_, _, rfl, decodeFirst_one bs hone⟩
  next hone =>
  split
  next htwo => exact ⟨_, _, rfl, decodeFirst_two bs (Nat.lt_of_not_le hone) htwo⟩
  next htwo =>
  split
  next hthree => exact ⟨_, _, rfl, decodeFirst_three bs (Nat.lt_of_not_le htwo) hthree⟩
  next hthree => exact ⟨_, _, rfl, decodeFirst_four bs (Nat.lt_of_not_le hthree)⟩

end

/-! ## Texts -/

theorem decodeAll_encode (cs : List Char) : decodeAll (encode cs) = cs.map some := by
  induction cs with
  | nil => rw [encode, List.flatMap_nil, decodeAll, List.map_nil]
  | cons c cs ih =>
    obtain ⟨b, rest, hbytes, hfirst⟩ := decodeFirst_utf8EncodeChar (encode cs) c
    have hencode : encode (c :: cs) = b :: (rest ++ encode cs) := by
      rw [encode, List.flatMap_cons, hbytes, List.cons_append]
      rfl
    rw [hencode, decodeAll, hfirst, List.drop_left, ih, List.map_cons]

/-- What a text is encoded as is read as that text. -/
theorem decodeLossy_encode (cs : List Char) : decodeLossy (encode cs) = cs := by
  rw [decodeLossy, decodeAll_encode, List.map_map]
  exact List.map_id cs

theorem encode_injective {cs ds : List Char} (h : encode cs = encode ds) : cs = ds := by
  rw [← decodeLossy_encode cs, h, decodeLossy_encode]

theorem encode_append (cs ds : List Char) : encode (cs ++ ds) = encode cs ++ encode ds :=
  List.flatMap_append

theorem encode_singleton (c : Char) : encode [c] = String.utf8EncodeChar c := by
  rw [encode, List.flatMap_cons, List.flatMap_nil, List.append_nil]

theorem length_encode (cs : List Char) : (encode cs).length = byteLength cs := by
  induction cs with
  | nil => rfl
  | cons c cs ih =>
    rw [encode, List.flatMap_cons, List.length_append, String.length_utf8EncodeChar,
      byteLength_cons]
    exact congrArg (c.utf8Size + ·) ih

theorem utf8EncodeChar_of_ascii {c : Char} (h : c.val.toNat ≤ 0x7F) :
    String.utf8EncodeChar c = [.ofNat c.val.toNat] := by
  unfold String.utf8EncodeChar
  exact if_pos h

theorem size_utf8Encode (cs : List Char) : cs.utf8Encode.size = byteLength cs := by
  induction cs with
  | nil => rfl
  | cons c cs ih =>
    rw [List.utf8Encode_cons, ByteArray.size_append, ih, List.utf8Encode_singleton,
      List.size_toByteArray, String.length_utf8EncodeChar, byteLength_cons]

/-- An ASCII character is one byte, behind those of the characters before it. -/
theorem getElem_utf8Encode {cs ds : List Char} {c : Char} (hc : c.val.toNat ≤ 0x7F)
    (h : byteLength cs < (cs ++ c :: ds).utf8Encode.size) :
    (cs ++ c :: ds).utf8Encode[byteLength cs] = .ofNat c.val.toNat := by
  have hsize := size_utf8Encode cs
  have hone : [c].utf8Encode = [UInt8.ofNat c.val.toNat].toByteArray := by
    rw [List.utf8Encode_singleton, utf8EncodeChar_of_ascii hc]
  simp only [List.utf8Encode_append, List.utf8Encode_cons (c := c) (l := ds), hone]
  rw [ByteArray.getElem_append_right (by omega)]
  simp only [hsize, Nat.sub_self]
  rw [ByteArray.getElem_append_left (by simp)]
  simp

theorem toUTF8_eq (s : String) : s.toUTF8 = s.toList.utf8Encode := by
  rw [String.toUTF8, ← String.toByteArray_ofList, String.ofList_toList]

/-- Outside of ASCII all bytes of a character are. -/
theorem le_of_mem_utf8EncodeChar {c : Char} (h : 0x7F < c.val.toNat) {b : UInt8}
    (hb : b ∈ String.utf8EncodeChar c) : 0x80 ≤ b.toNat := by
  have hone : ¬ c.val.toNat ≤ 0x7F := Nat.not_le.2 h
  unfold String.utf8EncodeChar at hb
  simp only [hone, if_false] at hb
  split at hb
  · simp only [List.mem_cons, List.not_mem_nil, or_false] at hb
    rcases hb with rfl | rfl <;> rw [UInt8.toNat_ofNat'] <;> omega
  · split at hb
    · simp only [List.mem_cons, List.not_mem_nil, or_false] at hb
      rcases hb with rfl | rfl | rfl <;> rw [UInt8.toNat_ofNat'] <;> omega
    · simp only [List.mem_cons, List.not_mem_nil, or_false] at hb
      rcases hb with rfl | rfl | rfl | rfl <;> rw [UInt8.toNat_ofNat'] <;> omega

/-- A byte in ASCII is a character of the text. -/
theorem mem_of_mem_encode {cs : List Char} {b : UInt8} (hb : b ∈ encode cs) (h : b.toNat ≤ 0x7F) :
    Char.ofNat b.toNat ∈ cs := by
  obtain ⟨c, hc, hbc⟩ := List.mem_flatMap.1 hb
  by_cases hone : c.val.toNat ≤ 0x7F
  · rw [utf8EncodeChar_of_ascii hone, List.mem_singleton] at hbc
    subst hbc
    rwa [ofNat_toNat_of_ascii hone]
  · have := le_of_mem_utf8EncodeChar (Nat.lt_of_not_le hone) hbc
    omega

end Wsdl.Text

namespace Wsdl.Iri

open Text (encode)

/-! ## Escapes -/

theorem hexValue?_hexDigit : ∀ n < 16, hexValue? (hexDigit n) = some n := by decide

theorem unescape_escapeByte (b : UInt8) (rest : List Char) :
    unescape (escapeByte b ++ rest) = b :: unescape rest := by
  have hb := b.toNat_lt
  have hbyte : hexByte? (hexDigit (b.toNat / 16)) (hexDigit (b.toNat % 16)) = some b := by
    rw [hexByte?, hexValue?_hexDigit _ (by omega), hexValue?_hexDigit _ (by omega)]
    have hparts : b.toNat / 16 * 16 + b.toNat % 16 = b.toNat := by omega
    simp only [hparts, UInt8.ofNat_toNat]
  simp only [escapeByte, List.cons_append, List.nil_append]
  rw [unescape, hbyte]

theorem unescape_cons {c : Char} (hc : c ≠ '%') (rest : List Char) :
    unescape (c :: rest) = String.utf8EncodeChar c ++ unescape rest := by
  rw [unescape]
  intro a b rest' h
  exact absurd h hc

theorem unescape_flatMap_escapeByte (bs : List UInt8) (rest : List Char) :
    unescape (bs.flatMap escapeByte ++ rest) = bs ++ unescape rest := by
  induction bs with
  | nil => rfl
  | cons b bs ih =>
    rw [List.flatMap_cons, List.append_assoc, unescape_escapeByte, ih, List.cons_append]

/-- Without percent signs of its own, a text comes back from its escapes. -/
theorem unescape_escape_append (s : CharSet) {cs : List Char} (hcs : '%' ∉ cs) (rest : List Char) :
    unescape (escape s cs ++ rest) = encode cs ++ unescape rest := by
  induction cs with
  | nil => rfl
  | cons c cs ih =>
    have hc : c ≠ '%' := (List.ne_of_not_mem_cons hcs).symm
    have hrest := ih (List.not_mem_of_not_mem_cons hcs)
    have hencode : encode (c :: cs) = String.utf8EncodeChar c ++ encode cs := List.flatMap_cons
    rw [escape, List.flatMap_cons, List.append_assoc, hencode, List.append_assoc, ← hrest]
    split
    · exact unescape_flatMap_escapeByte _ _
    · exact unescape_cons hc _

theorem unescape_escape (s : CharSet) {cs : List Char} (hcs : '%' ∉ cs) :
    unescape (escape s cs) = encode cs := by
  have h := unescape_escape_append s hcs []
  rwa [List.append_nil, unescape, List.append_nil] at h

theorem escape_of_forall {s : CharSet} {cs : List Char} (h : ∀ c ∈ cs, s c = false) :
    escape s cs = cs := by
  induction cs with
  | nil => rfl
  | cons c cs ih =>
    have hc := h c List.mem_cons_self
    have hrest := ih fun d hd => h d (List.mem_cons_of_mem _ hd)
    rw [escape, List.flatMap_cons, hc]
    exact congrArg (c :: ·) hrest

/-- What an escaped text holds: its own characters outside of the set, percent
signs and digits. -/
theorem mem_escape {s : CharSet} {cs : List Char} {c : Char} (h : c ∈ escape s cs) :
    c ∈ cs ∧ s c = false ∨ c = '%' ∨ ∃ n < 16, c = hexDigit n := by
  obtain ⟨d, hd, hc⟩ := List.mem_flatMap.1 h
  split at hc
  · obtain ⟨b, _, hc⟩ := List.mem_flatMap.1 hc
    have hb := b.toNat_lt
    simp only [escapeByte, List.mem_cons, List.not_mem_nil, or_false] at hc
    rcases hc with rfl | rfl | rfl
    · exact .inr (.inl rfl)
    · exact .inr (.inr ⟨_, by omega, rfl⟩)
    · exact .inr (.inr ⟨_, by omega, rfl⟩)
  · next hs =>
    obtain rfl := List.mem_singleton.1 hc
    exact .inl ⟨hd, by simpa using hs⟩

theorem escapeBytes_append (s : CharSet) (bs ds : List UInt8) :
    escapeBytes s (bs ++ ds) = escapeBytes s bs ++ escapeBytes s ds := List.flatMap_append

theorem escapeBytes_of_forall (s : CharSet) {bs : List UInt8} (h : ∀ b ∈ bs, 0x80 ≤ b.toNat) :
    escapeBytes s bs = bs.flatMap escapeByte := by
  induction bs with
  | nil => rfl
  | cons b bs ih =>
    have hb : ¬ b < 0x80 := by
      rw [UInt8.lt_iff_toNat_lt]
      exact Nat.not_lt.2 (h b List.mem_cons_self)
    have hrest := ih fun d hd => h d (List.mem_cons_of_mem _ hd)
    rw [List.flatMap_cons, ← hrest]
    simp [escapeBytes, hb]

/-- The bytes of a text are escaped as its characters are, if everything outside
of ASCII is. -/
theorem escapeBytes_encode {s : CharSet} (hs : ∀ c : Char, 0x7F < c.val.toNat → s c = true)
    (cs : List Char) : escapeBytes s (encode cs) = escape s cs := by
  induction cs with
  | nil => rfl
  | cons c cs ih =>
    have hencode : encode (c :: cs) = String.utf8EncodeChar c ++ encode cs := List.flatMap_cons
    have hescape : escape s (c :: cs)
        = (if s c then (String.utf8EncodeChar c).flatMap escapeByte else [c]) ++ escape s cs :=
      List.flatMap_cons
    rw [hencode, escapeBytes_append, ih, hescape]
    congr 1
    by_cases hone : c.val.toNat ≤ 0x7F
    · rw [Text.utf8EncodeChar_of_ascii hone]
      simp only [escapeBytes, List.flatMap_cons, List.flatMap_nil, List.append_nil,
        Text.lt_of_ascii hone, Text.ofNat_toNat_of_ascii hone, decide_true, Bool.true_and]
      cases s c <;> rfl
    · have hhigh := Nat.lt_of_not_le hone
      rw [escapeBytes_of_forall s fun b hb => Text.le_of_mem_utf8EncodeChar hhigh hb, hs c hhigh]
      rfl

end Wsdl.Iri
