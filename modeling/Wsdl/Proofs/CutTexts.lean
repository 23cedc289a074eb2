-- How a text is cut into events. Each event is written in its own way, and white
-- space may come before it. What is scanned without a fault is such a cut of the
-- text, with every event at the offset that the characters before it take up.
import Mathlib.Data.List.DropRight
import Mathlib.Data.List.TakeWhile
import Wsdl.Proofs.Nesting

namespace Wsdl.Xml

open Markup

/-! ## How events are written -/

/-- No greater-than sign of the content is at an end. Whether one is, is told from
the characters before it. -/
def Unended (ends : List Char → Bool) (content : List Char) : Prop :=
  ∀ a b, content = a ++ '>' :: b → ends a = false

/-- Constructs end with a greater-than sign, or where the text does. -/
def IsEnd (rest close : List Char) : Prop := close = ['>'] ∨ close = [] ∧ rest = []

/-- Whether nothing is quoted behind the characters. -/
def isOutsideQuotes (cs : List Char) : Bool := cs.foldl Quoting.next .none = .none

/-- Whether a greater-than sign behind the characters ends a section of the kind. -/
def Markup.Construct.endsBehind : Construct → List Char → Bool
  | .cdata, cs => closesCdata cs.reverse
  | .comment, cs => closesComment cs.reverse
  | _, cs => closesDoctype cs.reverse

/-- The content is that of a tag that starts an element. -/
def IsTagContent (content : List Char) : Prop :=
  (∀ c ∈ content.head?, c ≠ '!' ∧ c ≠ '/' ∧ c ≠ '?') ∧ Unended isOutsideQuotes content

/-- The event is written with the characters when `rest` comes behind them. -/
inductive Event.Spelled (rest : List Char) : Event → List Char → Prop
  | start {content close : List Char} :
      IsTagContent content → content.getLast? ≠ some '/' → IsEnd rest close →
      Spelled rest (.start (tagOf content)) ('<' :: content ++ close)
  | empty {content close : List Char} :
      IsTagContent (content ++ ['/']) → IsEnd rest close →
      Spelled rest (.empty (tagOf content)) ('<' :: (content ++ ['/']) ++ close)
  | close {content close : List Char} :
      '>' ∉ content → IsEnd rest close → Spelled rest .close ('<' :: '/' :: content ++ close)
  | instruction {content close : List Char} :
      '>' ∉ content → IsEnd rest close → Spelled rest .other ('<' :: '?' :: content ++ close)
  | bang {k : Construct} {content : List Char} {e : Event} :
      classify k content = .ok e → Unended k.endsBehind content → k.endsBehind content = true →
      Spelled rest e ('<' :: '!' :: content ++ ['>'])
  | text {raw blank : List Char} :
      raw ≠ [] → '<' ∉ raw → blank.all Text.isXmlSpace = true → (∀ c ∈ rest.head?, c = '<') →
      Spelled rest (.text raw) (raw ++ blank)

/-! ## Where constructs end -/

theorem unended_nil (ends : List Char → Bool) : Unended ends [] := by
  intro a b h
  simp at h

theorem Unended.cons {ends : List Char → Bool} {c : Char} {cs : List Char}
    (hfirst : c = '>' → ends [] = false) (h : Unended (fun a => ends (c :: a)) cs) :
    Unended ends (c :: cs) := by
  intro a b hab
  cases a with
  | nil =>
    exact hfirst (List.cons.inj hab).1
  | cons d a =>
    obtain ⟨rfl, htail⟩ := List.cons.inj hab
    exact h a b htail

namespace Markup

variable {cs content rest : List Char}

theorem cutAtClose_eq_some {closes : List Char → Bool} {before : List Char}
    (h : cutAtClose closes before cs = some (content, rest)) :
    ∃ tail, content = before.reverse ++ tail ∧ cs = tail ++ '>' :: rest ∧
      Unended (fun a => closes (a.reverse ++ before)) tail ∧
      closes (tail.reverse ++ before) = true := by
  induction cs generalizing before with
  | nil => cases h
  | cons c cs ih =>
    rw [cutAtClose] at h
    split at h
    · next hclose =>
      rw [Bool.and_eq_true, beq_iff_eq] at hclose
      obtain ⟨rfl, hcloses⟩ := hclose
      obtain ⟨rfl, rfl⟩ := Prod.mk.inj (Option.some.inj h)
      exact ⟨[], by simp, rfl, unended_nil _, hcloses⟩
    · next hopen =>
      obtain ⟨tail, rfl, rfl, hwithin, hcloses⟩ := ih h
      refine ⟨c :: tail, by simp, rfl, .cons ?_ (by simpa using hwithin), by simpa using hcloses⟩
      rintro rfl
      simpa using hopen

theorem cutTag_eq {q : Quoting} {rest? : Option (List Char)} (h : cutTag q cs = (content, rest?)) :
    Unended (fun a => a.foldl Quoting.next q = .none) content ∧
      ∃ close, cs = content ++ close ++ rest?.getD [] ∧ IsEnd (rest?.getD []) close := by
  induction cs generalizing q content with
  | nil =>
    obtain ⟨rfl, rfl⟩ := Prod.mk.inj h
    exact ⟨unended_nil _, [], rfl, .inr ⟨rfl, rfl⟩⟩
  | cons c cs ih =>
    rw [cutTag] at h
    split at h
    · next hend =>
      obtain ⟨rfl, rfl⟩ := Prod.mk.inj h
      exact ⟨unended_nil _, ['>'], by simp [hend.1], .inl rfl⟩
    · next hopen =>
      obtain ⟨rfl, hrest⟩ := Prod.mk.inj h
      obtain ⟨hwithin, close, hcs, hclose⟩ := ih (Prod.ext rfl hrest)
      refine ⟨.cons (fun hc => ?_) hwithin, close, ?_, hclose⟩
      · exact decide_eq_false fun hq => hopen ⟨hc, hq⟩
      · rw [List.cons_append, List.cons_append, ← hcs]

/-- What comes behind the characters before the first `c` is this `c`. -/
theorem eq_of_dropWhile_ne {c d : Char} (h : cs.dropWhile (· ≠ c) = d :: rest) :
    d = c ∧ cs = cs.takeWhile (· ≠ c) ++ c :: rest := by
  have hd : d = c := by
    have hhead := List.head?_dropWhile_not (fun x : Char => decide (x ≠ c)) cs
    rw [h] at hhead
    simpa using hhead
  have hcut := List.takeWhile_append_dropWhile (p := fun x : Char => decide (x ≠ c)) (l := cs)
  rw [h, hd] at hcut
  exact ⟨hd, hcut.symm⟩

theorem not_mem_takeWhile_ne (c : Char) (cs : List Char) : c ∉ cs.takeWhile (· ≠ c) :=
  fun h => by simpa using List.mem_takeWhile_imp h

theorem cutAtGreater_eq (cs : List Char) :
    '>' ∉ (cutAtGreater cs).1 ∧
      ∃ close, cs = (cutAtGreater cs).1 ++ close ++ (cutAtGreater cs).2.2 ∧
        IsEnd (cutAtGreater cs).2.2 close ∧
        (cutAtGreater cs).2.1 = Text.byteLength ((cutAtGreater cs).1 ++ close) := by
  have hnot := not_mem_takeWhile_ne '>' cs
  unfold cutAtGreater
  split
  · next hrest =>
    have hcut := List.takeWhile_append_dropWhile (p := fun c : Char => decide (c ≠ '>')) (l := cs)
    rw [hrest] at hcut
    exact ⟨hnot, [], by simpa using hcut.symm, .inr ⟨rfl, rfl⟩, by simp⟩
  · next c rest hrest =>
    obtain ⟨rfl, hcut⟩ := eq_of_dropWhile_ne hrest
    exact ⟨hnot, ['>'], by simpa using hcut, .inl rfl, (Text.byteLength_append _ ['>']).symm⟩

/-! ## What is found -/

theorem byteLength_less (cs : List Char) :
    Text.byteLength ('<' :: cs) = Text.byteLength cs + 1 := Nat.add_comm 1 _

theorem byteLength_greater (cs : List Char) :
    Text.byteLength (cs ++ ['>']) = Text.byteLength cs + 1 := Text.byteLength_append cs ['>']

/-- An event that is found behind a less-than sign is written with this sign and what
is read of the rest. The offset behind it is told as well, unless the text is at its
end there. -/
structure IsFound (offset : Nat) (cs : List Char) (e : Event) (behind : Nat)
    (rest spelling : List Char) : Prop where
  text : '<' :: cs = spelling ++ rest
  spelled : e.Spelled rest spelling
  behind : rest = [] ∨ behind + 1 = offset + Text.byteLength spelling

/-- An event is found that is written there, and nothing only at the end. -/
def Found.IsSound (offset : Nat) : Found cs → Prop
  | .nothing => cs = []
  | .fault _ _ => True
  | .event e _ behind rest _ => ∃ spelling, IsFound offset cs e behind rest spelling

variable (opened : List (List Char)) (offset : Nat)

theorem findTag_isSound {c : Char} (hc : c ≠ '!' ∧ c ≠ '/' ∧ c ≠ '?') :
    (findTag opened offset (c :: cs)).IsSound offset := by
  unfold findTag
  split
  next content rest? hcut =>
  extract_lets behind hle
  obtain ⟨hunended, close, hwritten, hclose⟩ := cutTag_eq hcut
  have hcontent : IsTagContent content := by
    refine ⟨fun d hd => ?_, hunended⟩
    obtain ⟨ds, rfl⟩ := List.head?_eq_some_iff.1 hd
    obtain ⟨rfl, -⟩ := List.cons.inj hwritten
    exact hc
  have htext : '<' :: c :: cs = '<' :: content ++ close ++ rest?.getD [] := by
    rw [hwritten]
    rfl
  have hbehind : rest?.getD [] = [] ∨
      behind + 1 = offset + Text.byteLength ('<' :: content ++ close) := by
    cases rest? with
    | none => exact .inl rfl
    | some cs =>
      rcases hclose with rfl | ⟨-, hend⟩
      · have hread : behind = offset + Text.byteLength content + 1 := rfl
        rw [List.cons_append, byteLength_less, byteLength_greater]
        exact .inr (by omega)
      · exact .inl hend
  split
  · next hslash =>
    rw [← List.dropLast_append_getLast? '/' hslash] at hcontent htext hbehind
    exact ⟨_, htext, .empty hcontent hclose, hbehind⟩
  · next hslash => exact ⟨_, htext, .start hcontent hslash hclose, hbehind⟩

theorem findBang_isSound (hall : cs.length < ('!' :: cs).length) :
    (findBang opened offset ('!' :: cs) cs hall).IsSound offset := by
  unfold findBang
  extract_lets piece
  have hpiece : ∀ {k : Construct} {closes : List Char → Bool},
      (k.endsBehind = fun a => closes a.reverse) → (piece k closes).IsSound offset := by
    intro k closes hcloses
    dsimp only [piece]
    split
    · trivial
    · next content rest hcut =>
      obtain ⟨_, rfl, rfl, hunended, hend⟩ := cutAtClose_eq_some hcut
      split
      · next e hclass =>
        refine ⟨'<' :: '!' :: content ++ ['>'], by simp, .bang hclass ?_ ?_, .inr ?_⟩
        · simpa only [hcloses, List.append_nil, List.reverse_nil, List.nil_append] using hunended
        · simpa only [hcloses, List.append_nil] using hend
        · have hsize : '!'.utf8Size = 1 := rfl
          rw [List.cons_append, byteLength_less, byteLength_greater, Text.byteLength_cons]
          omega
      · trivial
  split
  · trivial
  · exact hpiece rfl
  · exact hpiece rfl
  · exact hpiece rfl
  · exact hpiece rfl
  · trivial

/-- What is read up to the next greater-than sign is found if it is so written. -/
theorem exists_isFound_of_cutAtGreater {c : Char} {e : Event} (hc : c ≠ '>')
    (hspelled : ∀ content close, '>' ∉ content → IsEnd (cutAtGreater (c :: cs)).2.2 close →
      e.Spelled (cutAtGreater (c :: cs)).2.2 ('<' :: c :: content ++ close)) :
    ∃ spelling, IsFound offset (c :: cs) e (offset + (cutAtGreater (c :: cs)).2.1)
      (cutAtGreater (c :: cs)).2.2 spelling := by
  obtain ⟨hnot, close, hwritten, hclose, hread⟩ := cutAtGreater_eq (c :: cs)
  obtain ⟨content, hcontent⟩ : ∃ content, (cutAtGreater (c :: cs)).1 = c :: content := by
    unfold cutAtGreater
    rw [List.takeWhile_cons_of_pos (by simpa using hc)]
    split
    · exact ⟨_, rfl⟩
    · exact ⟨_, rfl⟩
  rw [hcontent] at hnot hwritten hread
  refine ⟨'<' :: c :: content ++ close, ?_, hspelled content close ?_ hclose, .inr ?_⟩
  · exact congrArg _ hwritten
  · exact fun h => hnot (List.mem_cons_of_mem _ h)
  · rw [hread]
    exact congrArg (offset + ·) (byteLength_less _).symm

theorem findClose_isSound (tail : List Char) :
    (findClose opened offset ('/' :: tail)).IsSound offset := by
  unfold findClose
  split
  next content read _ hcut =>
  obtain rfl : (cutAtGreater ('/' :: tail)).2.1 = read := by rw [hcut]
  extract_lets back
  split
  · trivial
  · split
    · exact exists_isFound_of_cutAtGreater offset (by decide) fun _ _ => .close
    · trivial

theorem findInstruction_isSound (tail : List Char) :
    (findInstruction opened offset ('?' :: tail)).IsSound offset := by
  unfold findInstruction
  split
  next content read _ hcut =>
  obtain rfl : (cutAtGreater ('?' :: tail)).2.1 = read := by rw [hcut]
  split
  · exact exists_isFound_of_cutAtGreater offset (by decide) fun _ _ => .instruction
  · trivial

theorem find_isSound (cs : List Char) : (find opened offset cs).IsSound offset := by
  unfold find
  split
  · rfl
  · exact findBang_isSound ..
  · exact findClose_isSound ..
  · exact findInstruction_isSound ..
  · next c tail hbang hslash hquestion =>
    exact findTag_isSound opened offset ⟨hbang, hslash, hquestion⟩

end Markup

/-! ## The cut of a text -/

/-- An event of a text, with the white space before it and what stands before that. -/
structure Standing where
  before : List Char
  blank : List Char
  event : Event

namespace Standing

/-- The event and the offset at which the reader stood before the white space. -/
def marked (s : Standing) : Marked := ⟨Text.byteLength s.before, s.event⟩

/-- The characters up to where the event begins. -/
def upTo (s : Standing) : List Char := s.before ++ s.blank

end Standing

/-- The characters, which come behind `before`, are those of the events, with white
space before each. At the end of the text there may be a single less-than sign. -/
inductive Cut : List Char → List Char → List Standing → Prop
  | last {before blank : List Char} : blank.all Text.isXmlSpace = true → Cut before blank []
  | lone {before blank : List Char} :
      blank.all Text.isXmlSpace = true → Cut before (blank ++ ['<']) []
  | event {before blank spelling rest : List Char} {e : Event} {ss : List Standing} :
      blank.all Text.isXmlSpace = true → e.Spelled rest spelling →
      Cut (before ++ blank ++ spelling) rest ss →
      Cut before (blank ++ spelling ++ rest) (⟨before, blank, e⟩ :: ss)

namespace Markup

variable {opened : List (List Char)} {offset : Nat} {cs before : List Char}

/-- The events are those of a cut of the characters. -/
def IsCutOf (before cs : List Char) (ms : List Marked) : Prop :=
  ∃ ss, Cut before cs ss ∧ ms = ss.map Standing.marked

theorem IsCutOf.cons {blank spelling rest : List Char} {e : Event} {ms : List Marked}
    (hblank : blank.all Text.isXmlSpace = true) (hspelled : e.Spelled rest spelling)
    (h : IsCutOf (before ++ blank ++ spelling) rest ms) :
    IsCutOf before (blank ++ spelling ++ rest) (⟨Text.byteLength before, e⟩ :: ms) := by
  obtain ⟨ss, hcut, rfl⟩ := h
  exact ⟨_, .event hblank hspelled hcut, rfl⟩

/-- The scan of what is found and of what comes behind it. -/
def scanOn (mark : Nat) {tail : List Char} : Found tail → Scan
  | .nothing => .nothing
  | .fault o f => .stop o f
  | .event e inside o rest _ => (scanFrom inside o rest).push ⟨mark, e⟩

/-- Markup behind white space is cut off, and the rest is what is read next. -/
theorem isCutOf_markup (opened : List (List Char)) {blank tail : List Char} {scan : Scan}
    (hblank : blank.all Text.isXmlSpace = true)
    (hscan : scan = scanOn (Text.byteLength before)
      (find opened (Text.byteLength (before ++ blank) + 1) tail))
    (hfault : scan.fault = none)
    (hrest : ∀ inside o rest, rest.length ≤ tail.length →
      ∀ {before}, rest = [] ∨ o = Text.byteLength before → (scanFrom inside o rest).fault = none →
        IsCutOf before rest (scanFrom inside o rest).events) :
    IsCutOf before (blank ++ '<' :: tail) scan.events := by
  subst hscan
  have hsound := find_isSound opened (Text.byteLength (before ++ blank) + 1) tail
  cases hfind : find opened (Text.byteLength (before ++ blank) + 1) tail with
  | nothing =>
    rw [hfind] at hsound
    obtain rfl : tail = [] := hsound
    exact ⟨[], .lone hblank, rfl⟩
  | fault o f =>
    rw [hfind] at hfault
    cases hfault
  | event e inside o rest hle =>
    rw [hfind] at hfault hsound
    obtain ⟨spelling, htext, hspelled, hbehind⟩ := hsound
    rw [htext, ← List.append_assoc]
    refine .cons hblank hspelled (hrest inside o rest hle (hbehind.imp_right fun h => ?_) hfault)
    rw [Text.byteLength_append _ spelling]
    omega

/-- Text is written with the white space behind it. -/
theorem spelled_trimmed {text rest : List Char} (htext : text ≠ [])
    (hhead : ∀ c ∈ text.head?, Text.isXmlSpace c = false) (hnot : '<' ∉ text)
    (hrest : ∀ c ∈ rest.head?, c = '<') :
    Event.Spelled rest (.text (scanFrom.trimmed text)) text := by
  have hcut : scanFrom.trimmed text ++ text.rtakeWhile Text.isXmlSpace = text :=
    List.rdropWhile_append_rtakeWhile
  have hraw : scanFrom.trimmed text ≠ [] := by
    intro h
    obtain ⟨c, cs, rfl⟩ := List.exists_cons_of_ne_nil htext
    have hspace := List.rdropWhile_eq_nil_iff.1 h c List.mem_cons_self
    rw [hhead c rfl] at hspace
    cases hspace
  have hless : '<' ∉ scanFrom.trimmed text := fun h => hnot (by
    rw [← hcut]
    exact List.mem_append_left _ h)
  have hblank : (text.rtakeWhile Text.isXmlSpace).all Text.isXmlSpace = true :=
    List.all_eq_true.2 fun c => List.mem_rtakeWhile_imp
  have hspelled := Event.Spelled.text hraw hless hblank hrest
  rwa [hcut] at hspelled

/-- Behind white space comes text, which may be empty, and behind this the next
less-than sign, if there is one. -/
theorem split_at_less (cs : List Char) :
    cs = cs.takeWhile Text.isXmlSpace ++ (cs.dropWhile Text.isXmlSpace).takeWhile (· ≠ '<')
        ++ (cs.dropWhile Text.isXmlSpace).dropWhile (· ≠ '<') ∧
      ∀ c ∈ ((cs.dropWhile Text.isXmlSpace).takeWhile (· ≠ '<')).head?,
        Text.isXmlSpace c = false := by
  have hcut := List.takeWhile_append_dropWhile (p := fun c : Char => decide (c ≠ '<'))
    (l := cs.dropWhile Text.isXmlSpace)
  refine ⟨?_, fun c hc => ?_⟩
  · rw [List.append_assoc, hcut, List.takeWhile_append_dropWhile]
  · obtain ⟨ds, hds⟩ := List.head?_eq_some_iff.1 hc
    rw [hds] at hcut
    have hhead := List.head?_dropWhile_not Text.isXmlSpace cs
    rw [← hcut] at hhead
    simpa using hhead

theorem isCutOf_scanFrom (hoffset : cs = [] ∨ offset = Text.byteLength before)
    (h : (scanFrom opened offset cs).fault = none) :
    IsCutOf before cs (scanFrom opened offset cs).events := by
  fun_induction scanFrom opened offset cs generalizing before with
  | case1 opened offset cs text hrest =>
    rename_i hempty
    have hsplit : cs = cs.takeWhile Text.isXmlSpace ++ text ++ [] := hrest ▸ (split_at_less cs).1
    rw [List.isEmpty_iff.1 hempty, List.append_nil, List.append_nil] at hsplit
    exact ⟨[], .last (by rw [hsplit]; exact List.all_takeWhile), rfl⟩
  | case2 opened offset cs text hrest =>
    rename_i hempty
    have htext : text ≠ [] := mt List.isEmpty_iff.2 hempty
    have hsplit : cs = cs.takeWhile Text.isXmlSpace ++ text ++ [] := hrest ▸ (split_at_less cs).1
    obtain rfl := hoffset.resolve_left (by rw [hsplit]; simp [htext])
    have hspelled : Event.Spelled [] (.text (scanFrom.trimmed text)) text :=
      spelled_trimmed htext (split_at_less cs).2 (not_mem_takeWhile_ne _ _) (by simp)
    rw [hsplit]
    exact .cons List.all_takeWhile hspelled ⟨[], .last rfl, rfl⟩
  | case3 opened offset cs blank here text c tail hrest there markup hempty =>
    rename_i ih
    have htext : text = [] := List.isEmpty_iff.1 hempty
    obtain ⟨rfl, -⟩ := eq_of_dropWhile_ne hrest
    have hsplit : cs = blank ++ text ++ '<' :: tail := hrest ▸ (split_at_less cs).1
    rw [htext, List.append_nil] at hsplit
    obtain rfl := hoffset.resolve_left (by rw [hsplit]; simp)
    have hthere : there = Text.byteLength (before ++ blank) := by
      rw [Text.byteLength_append]
      simp [there, here, htext]
    rw [hsplit]
    refine isCutOf_markup opened List.all_takeWhile ?_ h ih
    rw [← hthere]
    simp only [markup, dif_pos hempty]
    rfl
  | case4 opened offset cs blank here text c tail hrest there markup hempty =>
    rename_i ih
    have htext : text ≠ [] := mt List.isEmpty_iff.2 hempty
    obtain ⟨rfl, -⟩ := eq_of_dropWhile_ne hrest
    have hsplit : cs = blank ++ text ++ '<' :: tail := hrest ▸ (split_at_less cs).1
    obtain rfl := hoffset.resolve_left (by rw [hsplit]; simp)
    have hspelled : Event.Spelled ('<' :: tail) (.text (scanFrom.trimmed text)) text :=
      spelled_trimmed htext (split_at_less cs).2 (not_mem_takeWhile_ne _ _) (by simp)
    have hthere : there = Text.byteLength (before ++ blank ++ text) := by
      rw [Text.byteLength_append, Text.byteLength_append]
    have hmarkup : IsCutOf (before ++ blank ++ text) ([] ++ '<' :: tail) markup.events := by
      refine isCutOf_markup opened rfl ?_ h ih
      rw [List.append_nil, ← hthere]
      simp only [markup, dif_neg hempty]
      rfl
    rw [hsplit]
    exact .cons List.all_takeWhile hspelled hmarkup

end Markup

/-! ## What a cut tells -/

section

variable {before cs rest spelling : List Char} {e : Event} {ss : List Standing} {s : Standing}
  {tag : Tag}

theorem Event.Spelled.ne_nil (h : e.Spelled rest spelling) : spelling ≠ [] := by
  cases h with
  | text hraw => simp [hraw]
  | _ => simp

theorem Markup.tag?_of_classify {k : Construct} {content : List Char}
    (h : classify k content = .ok e) : e.tag? = none := by
  unfold classify at h
  cases k with
  | cdata =>
    dsimp only at h
    split at h
    · obtain rfl := Except.ok.inj h
      rfl
    · cases h
  | comment =>
    dsimp only at h
    split at h
    · obtain rfl := Except.ok.inj h
      rfl
    · cases h
  | doctype =>
    dsimp only at h
    split at h
    · split at h
      · cases h
      · obtain rfl := Except.ok.inj h
        rfl
    · cases h
  | bang => cases h
  | instruction => cases h

theorem Markup.tagOf_content (content : List Char) :
    (tagOf content).name ++ (tagOf content).afterName = content :=
  List.takeWhile_append_dropWhile

/-- A tag is written from its less-than sign on. -/
theorem Event.Spelled.exists_of_tag (h : e.Spelled rest spelling) (htag : e.tag? = some tag) :
    ∃ after, spelling = '<' :: (tag.name ++ tag.afterName ++ after) := by
  cases h with
  | @start content close =>
    obtain rfl := Option.some.inj htag
    exact ⟨close, by rw [tagOf_content]; rfl⟩
  | @empty content close =>
    obtain rfl := Option.some.inj htag
    exact ⟨'/' :: close, by rw [tagOf_content]; simp⟩
  | close => cases htag
  | instruction => cases htag
  | bang hclass =>
    rw [tag?_of_classify hclass] at htag
    cases htag
  | text => cases htag

/-- What stands around an event of a cut. -/
theorem Cut.of_mem (h : Cut before cs ss) (hs : s ∈ ss) :
    before <+: s.before ∧ s.blank.all Text.isXmlSpace = true ∧
      ∃ spelling rest, before ++ cs = s.upTo ++ spelling ++ rest ∧
        s.event.Spelled rest spelling := by
  induction h with
  | last => cases hs
  | lone => cases hs
  | @event before blank spelling rest e ss hblank hspelled _ ih =>
    rcases List.mem_cons.1 hs with rfl | hs
    · exact ⟨List.prefix_rfl, hblank, spelling, rest, by simp [Standing.upTo], hspelled⟩
    · obtain ⟨hbefore, hrest⟩ := ih hs
      rw [List.append_assoc before] at hbefore
      refine ⟨(List.prefix_append _ _).trans hbefore, ?_⟩
      simpa using hrest

/-- Each event begins behind those before it. -/
theorem Cut.pairwise (h : Cut before cs ss) :
    ss.Pairwise fun s t => ∃ d, d ≠ [] ∧ t.upTo = s.upTo ++ d := by
  induction h with
  | last => exact .nil
  | lone => exact .nil
  | @event before blank spelling rest e ss hblank hspelled hrest ih =>
    refine List.pairwise_cons.2 ⟨fun t ht => ?_, ih⟩
    obtain ⟨d, hd⟩ := (hrest.of_mem ht).1
    refine ⟨spelling ++ d ++ t.blank, by simp [hspelled.ne_nil], ?_⟩
    simp [Standing.upTo, ← hd]

end

end Wsdl.Xml
