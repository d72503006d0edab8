import ChannelFeed.Proofs.Json.PassedTexts

/-!
# Records from texts of objects

A record is read from any text that holds its members: in any order, with any blanks between them and however their names
are spelled, as long as the step for each member takes its value. The text in which an object is written is one of them.
-/

namespace ChannelFeed.Json.Reader

open Grammar

variable {α σ : Type} {c : Char} {text gap : List Char} {before between after : List UInt8}

theorem Reads.unicodeEscape {digits : List Char} {n : Nat} (hex : Hex digits n) (whole : n < 0xD800 ∨ 0xDFFF < n) :
    Reads escape (117 :: (Utf8.encode digits ++ after)) (Char.ofNat n) after := by
  have low : isLowSurrogate n = false := by
    simp only [isLowSurrogate, Bool.and_eq_false_iff, decide_eq_false_iff_not]
    omega
  have high : isHighSurrogate n = false := by
    simp only [isHighSurrogate, Bool.and_eq_false_iff, decide_eq_false_iff_not]
    omega
  refine Reads.next.bind ((Reads.hexDigits hex).bind ?_)
  rw [low, high]
  exact Reads.pure

theorem Reads.hexEscapeByte {b : UInt8} {expected : Char} (is : Char.ofUInt8 b = expected) :
    Reads (hexEscapeByte expected) (b :: after) () after := by
  refine Reads.look.bind (Reads.advance.bind ?_)
  rw [if_pos is]
  exact Reads.pure

theorem Reads.surrogates {digits others : List Char} {high low : Nat} (first : Hex digits (0xD800 + high))
    (second : Hex others (0xDC00 + low)) (highBits : high < 0x400) (lowBits : low < 0x400) :
    Reads escape (117 :: (Utf8.encode digits ++ 92 :: 117 :: (Utf8.encode others ++ after)))
      (Char.ofNat (0x10000 + high * 0x400 + low)) after := by
  have noLow : isLowSurrogate (0xD800 + high) = false := by
    simp only [isLowSurrogate, Bool.and_eq_false_iff, decide_eq_false_iff_not]
    omega
  have isHigh : isHighSurrogate (0xD800 + high) = true := by
    simp only [isHighSurrogate, Bool.and_eq_true, decide_eq_true_iff]
    omega
  have isLow : isLowSurrogate (0xDC00 + low) = true := by
    simp only [isLowSurrogate, Bool.and_eq_true, decide_eq_true_iff]
    omega
  refine Reads.next.bind ((Reads.hexDigits first).bind ?_)
  rw [noLow, isHigh]
  refine (Reads.hexEscapeByte (b := 92) (by decide)).bind ?_
  refine (Reads.hexEscapeByte (b := 117) (by decide)).bind ((Reads.hexDigits second).bind ?_)
  rw [isLow, Nat.add_sub_cancel_left, Nat.add_sub_cancel_left]
  exact Reads.pure

theorem readsBody_spells {cs : List Char} (spells : Spells text cs) :
    ReadsBody (Utf8.encode text ++ 34 :: after) (Utf8.encode cs) after := by
  induction spells with
  | nil => exact .closing
  | @plain c text cs plain _ ih =>
    rw [Utf8.encode_cons, Utf8.encode_cons, List.append_assoc]
    exact .plains (isPlain_of_utf8EncodeChar plain.1 plain.2.1 plain.2.2) ih
  | @escape letter c text cs known _ ih =>
    obtain ⟨simple, -, small⟩ := simpleEscape?_eq known
    have bytes : Utf8.encode ('\\' :: letter :: text) = 92 :: UInt8.ofNat letter.toNat :: Utf8.encode text := by
      rw [← Utf8.encode_ascii small]
      rfl
    rw [bytes, Utf8.encode_cons, List.cons_append, List.cons_append]
    refine .escaped (Reads.simpleEscape ?_) (Nat.le_succ _) ih
    rw [Utf8.ofUInt8_ofNat small, simple]
  | @hex digits text cs n hex whole _ ih =>
    rw [encode_hexEscape, Utf8.encode_cons, List.cons_append, List.cons_append, List.append_assoc]
    refine .escaped (Reads.unicodeEscape hex whole) ?_ ih
    simp only [List.length_cons, List.length_append]
    omega
  | @pair digits others text cs high low first second highBits lowBits _ ih =>
    rw [encode_hexEscape, encode_hexEscape, Utf8.encode_cons]
    simp only [List.cons_append, List.append_assoc]
    refine .escaped (Reads.surrogates first second highBits lowBits) ?_ ih
    simp only [List.length_cons, List.length_append]
    omega

theorem Reads.spelled {name : String} (spells : SpellsName text name) :
    Reads Reader.key (34 :: (Utf8.encode text ++ 34 :: after)) name after := by
  refine Reads.advance.bind fun p => ?_
  obtain ⟨p', read⟩ := readsBody_spells spells _ (Nat.le_succ _) p
  refine ⟨p', ChannelFeed.bind_eq_ok.mpr ⟨_, read, ?_⟩⟩
  dsimp only
  rw [Utf8.text?_encode]
  rfl

/-- From a member the step behind its name makes `t` of `s`. -/
def MemberReads (member : String → σ → Reader σ) (m : String × List Char) (s t : σ) : Prop :=
  ∀ (gap behind : List Char) (after : List UInt8), Blanks gap → Blanks behind → Ends after →
    Reads (member m.1 s) (Utf8.encode gap ++ 58 :: (Utf8.encode behind ++ (Utf8.encode m.2 ++ after))) t after

/-- From all these members, one after the other. -/
inductive MembersRead (member : String → σ → Reader σ) : List (String × List Char) → σ → σ → Prop
  | nil (s : σ) : MembersRead member [] s s
  | cons {m : String × List Char} {ms : List (String × List Char)} {s t u : σ} (one : MemberReads member m s t)
    (rest : MembersRead member ms t u) : MembersRead member (m :: ms) s u

variable {first : Bool} {parting : List Char} {member : String → σ → Reader σ} {ms : List (String × List Char)} {s t : σ}

theorem Reads.partedMember (parted : Parted first parting) :
    Reads (anotherMember first) (Utf8.encode parting ++ 34 :: after) true (34 :: after) := by
  cases parted with
  | first blank => exact Reads.memberAhead (blank_encode blank)
  | comma blank also =>
    rw [Utf8.encode_append, List.append_assoc]
    exact (Reads.nextMember (blank_encode also)).behind (blank_encode blank)

theorem Reads.members (inside : MembersText SpellsName first ms text)
    (all : MembersRead member ms s t) (after : List UInt8) {bound : Nat} (enough : ms.length < bound) :
    Reads (Reader.members member bound first s) (Utf8.encode text ++ after) t (125 :: after) := by
  induction inside generalizing s bound with
  | none blank =>
    cases all
    cases bound with
    | zero => cases enough
    | succ bound =>
      rw [Utf8.encode_append, List.append_assoc]
      exact (Reads.noMember _ (blank_encode blank)).bind Reads.pure
  | @one first parting body gap behind value text name ms parted spells blank also more ih =>
    cases bound with
    | zero => cases enough
    | succ bound =>
      cases all with
      | cons one rest =>
      rw [encode_member]
      refine (Reads.partedMember parted).bind ((Reads.spelled spells).bind ?_)
      exact (one gap behind _ blank also (ends_membersText more)).bind (ih rest (Nat.lt_of_succ_lt_succ enough))

theorem length_le_membersText {κ : Type} {IsKey : List Char → κ → Prop} {ms : List (κ × List Char)}
    (inside : MembersText IsKey first ms text) : ms.length < text.length := by
  induction inside with
  | none =>
    rw [List.length_append]
    exact Nat.lt_add_left _ Nat.one_pos
  | one _ _ _ _ _ ih =>
    simp only [List.length_append, List.length_cons]
    omega

/-- A record is read from the text of an object whose members it reads. -/
theorem whole?_objectText {kind : Record σ α} {room : Nat} {x : α} (object : ObjectText ms text)
    (all : MembersRead (kind.member room) ms kind.start s) (finished : kind.finish s = .ok x) :
    whole? (Reader.record kind (room + 1)) (Utf8.encode text) = .ok x := by
  obtain ⟨before, inside, behind, blankBefore, blankBehind, inside', rfl⟩ := object
  have bytes : Utf8.encode (before ++ '\x7b' :: (inside ++ behind)) =
      Utf8.encode before ++ 123 :: (Utf8.encode inside ++ Utf8.encode behind) := by
    simp only [Utf8.encode_append, Utf8.encode_cons]
    rfl
  have enough : ms.length < (Utf8.encode inside ++ Utf8.encode behind).length := by
    have shorter := length_le_membersText inside'
    have bytes := Utf8.length_le_encode inside
    rw [List.length_append]
    omega
  have read : Reads (Reader.record kind (room + 1)) (123 :: (Utf8.encode inside ++ Utf8.encode behind)) x
      (Utf8.encode behind) := by
    refine (Reads.token .nil rfl (show _ = '\x7b' by decide)).bind (Reads.advance.bind (Reads.left.bind ?_))
    refine (Reads.members inside' all _ enough).bind ?_
    rw [finished]
    exact (Reads.endOfObject .nil).bind Reads.pure
  rw [bytes]
  exact (read.behind (blank_encode blankBefore)).whole (blank_encode blankBehind)

theorem hex_digitChar : ∀ n < 0x20, Hex ['0', '0', Nat.digitChar (n / 16), Nat.digitChar (n % 16)] n := by
  intro n small
  have digits : ∀ d < 16, hexDigit? (Nat.digitChar d) = some d := by decide
  refine ⟨0, 0, n / 16, n % 16, ?_, by omega⟩
  simp only [List.map_cons, List.map_nil, digits (n / 16) (by omega), digits (n % 16) (by omega)]
  rfl

theorem spells_charText (cs : List Char) : Spells (cs.flatMap charText) cs := by
  induction cs with
  | nil => exact .nil
  | cons c cs ih =>
    rw [List.flatMap_cons]
    unfold charText
    split
    · exact .escape (by decide) ih
    · exact .escape (by decide) ih
    · exact .escape (by decide) ih
    · exact .escape (by decide) ih
    · exact .escape (by decide) ih
    · exact .escape (by decide) ih
    · exact .escape (by decide) ih
    · next notQuote notBackslash _ _ _ _ _ =>
      split
      · next control =>
        have spells := Spells.hex (hex_digitChar c.toNat control) (.inl (by omega)) ih
        rwa [Char.ofNat_toNat] at spells
      · next printed => exact .plain ⟨Nat.not_lt.mp printed, notQuote, notBackslash⟩ ih

theorem blanks_newLine (level : Nat) : Blanks (newLine level) := by
  intro c there
  rcases List.mem_cons.mp there with rfl | there
  · decide
  · rw [List.eq_of_mem_replicate there]
    decide

theorem membersText_lines (level : Nat) (ms : List (String × Json)) :
    MembersText SpellsName false
      (ms.map fun m => (m.1, Layout.lines.chars (level + 1) m.2))
      (Layout.lines.members (level + 1) ms ++ (newLine level ++ ['\x7d'])) := by
  induction ms with
  | nil => exact .none (blanks_newLine level)
  | cons m ms ih =>
    have spelled : SpellsName (m.1.toList.flatMap charText) m.1 := spells_charText m.1.toList
    have blank : Blanks [' '] := List.forall_mem_singleton.mpr (by decide)
    have member : MembersText SpellsName false ((m.1, Layout.lines.chars (level + 1) m.2) :: _) _ := .one
      (.comma .nil (blanks_newLine (level + 1))) spelled .nil blank ih
    simpa [Layout.members, stringText, Layout.lines] using member

theorem objectText_lines (ms : List (String × Json)) :
    ObjectText (ms.map fun m => (m.1, Layout.lines.chars 1 m.2)) (Layout.lines.chars 0 (.object ms)) := by
  cases ms with
  | nil => exact ⟨[], ['\x7d'], [], .nil, .nil, .none .nil, rfl⟩
  | cons m ms =>
    have spelled : SpellsName (m.1.toList.flatMap charText) m.1 := spells_charText m.1.toList
    have blank : Blanks [' '] := List.forall_mem_singleton.mpr (by decide)
    have member : MembersText SpellsName true ((m.1, Layout.lines.chars 1 m.2) :: _) _ :=
      .one (.first (blanks_newLine 1)) spelled .nil blank (membersText_lines 0 ms)
    refine ⟨[], _, [], .nil, .nil, member, ?_⟩
    simp [Layout.chars, stringText, Layout.lines]

end ChannelFeed.Json.Reader
