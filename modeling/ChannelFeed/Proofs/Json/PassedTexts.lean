import ChannelFeed.Proofs.Json.Grammar
import ChannelFeed.Proofs.Json.Passing
import ChannelFeed.Proofs.Json.Rereading

/-!
# Passing over any text of a value

A value that nobody asks for is passed over if its text is one of the grammar, whether or not it can be read. Main
statement: `passedOver_valueText`.
-/

namespace ChannelFeed.Json.Reader

open Grammar

variable {b : UInt8} {c : Char} {text gap : List Char} {before between after blanks : List UInt8}

theorem blank_encode (blank : Blanks gap) : Blank (Utf8.encode gap) := by
  induction gap with
  | nil => exact .nil
  | cons c gap ih =>
    obtain ⟨isBlank, rest⟩ := List.forall_mem_cons.mp blank
    simp only [List.mem_cons, List.not_mem_nil, or_false] at isBlank
    rcases isBlank with rfl | rfl | rfl | rfl <;> exact List.forall_mem_cons.mpr ⟨rfl, ih rest⟩

/-! ## Strings -/

/-- A body is passed over if there is a step for each byte of it. -/
def PassesBody (before after : List UInt8) : Prop :=
  ∀ bound, before.length ≤ bound → Reads (passBody bound) before () after

theorem PassesBody.closing : PassesBody (34 :: after) after := by
  intro bound enough p
  cases bound with
  | zero => cases enough
  | succ bound => exact ⟨p.after 34, rfl⟩

theorem PassesBody.plain (plain : Reader.IsPlain b) (rest : PassesBody before after) :
    PassesBody (b :: before) after := by
  intro bound enough p
  cases bound with
  | zero => cases enough
  | succ bound =>
    obtain ⟨p', passed⟩ := rest bound (Nat.le_of_succ_le_succ enough) (p.after b)
    have value : (Char.ofUInt8 b).toNat = b.toNat := UInt8.toNat_toUInt32 b
    have notQuote : Char.ofUInt8 b ≠ '"' := fun is => plain.2.1 (value ▸ congrArg Char.toNat is)
    have notBackslash : Char.ofUInt8 b ≠ '\\' := fun is => plain.2.2 (value ▸ congrArg Char.toNat is)
    have notControl : ¬ b < 32 := fun less => Nat.not_lt.mpr plain.1 (UInt8.lt_iff_toNat_lt.mp less)
    refine ⟨p', ?_⟩
    rw [passBody]
    dsimp only
    split
    · next is => exact absurd is notQuote
    · next is => exact absurd is notBackslash
    · rw [if_neg notControl]
      exact passed

theorem PassesBody.plains {bytes : List UInt8} (plain : ∀ b ∈ bytes, Reader.IsPlain b)
    (rest : PassesBody before after) : PassesBody (bytes ++ before) after := by
  induction bytes with
  | nil => exact rest
  | cons b bytes ih =>
    obtain ⟨plainByte, plain⟩ := List.forall_mem_cons.mp plain
    exact (ih plain).plain plainByte

theorem PassesBody.escaped (escapes : Reads passEscape before () between) (shorter : between.length ≤ before.length)
    (rest : PassesBody between after) : PassesBody (92 :: before) after := by
  intro bound enough p
  cases bound with
  | zero => cases enough
  | succ bound =>
    obtain ⟨p', passed⟩ := escapes (p.after 92)
    obtain ⟨p'', passedRest⟩ := rest bound (Nat.le_trans shorter (Nat.le_of_succ_le_succ enough)) p'
    refine ⟨p'', ?_⟩
    change (passEscape ⟨p.after 92, before⟩ >>= fun r => passBody bound r.2) = _
    rw [passed]
    exact passedRest

theorem small_of_hexDigit? {n : Nat} (digit : hexDigit? c = some n) : c.toNat < 0x80 := by
  have below {a z : Char} (range : a ≤ c ∧ c ≤ z) (small : z.toNat < 0x80) : c.toNat < 0x80 :=
    Nat.lt_of_le_of_lt (UInt32.le_iff_toNat_le.mp range.2) small
  unfold hexDigit? at digit
  split at digit
  · next range => exact below range (by decide)
  · split at digit
    · next range => exact below range (by decide)
    · split at digit
      · next range => exact below range (by decide)
      · cases digit

theorem encode_hexEscape (digits text : List Char) :
    Utf8.encode ('\\' :: 'u' :: (digits ++ text)) = 92 :: 117 :: (Utf8.encode digits ++ Utf8.encode text) := by
  rw [← Utf8.encode_append]
  rfl

theorem Reads.hexDigits {digits : List Char} {n : Nat} (hex : Hex digits n) :
    Reads Reader.hexEscape (Utf8.encode digits ++ after) n after := by
  obtain ⟨i, j, k, l, are, rfl⟩ := hex
  obtain ⟨w, digits, rfl, isW, are⟩ := List.map_eq_cons_iff.mp are
  obtain ⟨x, digits, rfl, isX, are⟩ := List.map_eq_cons_iff.mp are
  obtain ⟨y, digits, rfl, isY, are⟩ := List.map_eq_cons_iff.mp are
  obtain ⟨z, digits, rfl, isZ, are⟩ := List.map_eq_cons_iff.mp are
  obtain rfl := List.map_eq_nil_iff.mp are
  have small {c : Char} {n : Nat} (digit : hexDigit? c = some n) := small_of_hexDigit? digit
  have back {c : Char} {n : Nat} (digit : hexDigit? c = some n) :
      hexDigit? (Char.ofUInt8 (UInt8.ofNat c.toNat)) = some n := by
    rw [Utf8.ofUInt8_ofNat (small digit), digit]
  rw [Utf8.encode_ascii (small isW), Utf8.encode_ascii (small isX), Utf8.encode_ascii (small isY),
    Utf8.encode_ascii (small isZ)]
  have known : [UInt8.ofNat w.toNat, UInt8.ofNat x.toNat, UInt8.ofNat y.toNat, UInt8.ofNat z.toNat].mapM
      (fun b => hexDigit? (Char.ofUInt8 b)) = some [i, j, k, l] := by
    simp only [List.mapM_cons, List.mapM_nil, back isW, back isX, back isY, back isZ]
    rfl
  have read : Reads Reader.hexEscape _ _ after := Reads.hexEscape known
  have value : [i, j, k, l].foldl (· * 16 + ·) 0 = ((i * 16 + j) * 16 + k) * 16 + l := by
    simp only [List.foldl_cons, List.foldl_nil, Nat.zero_mul, Nat.zero_add]
  exact value ▸ read

theorem simpleEscape?_eq {letter : Char} (known : (letter, c) ∈ escapes) :
    simpleEscape? letter = some c ∧ letter ≠ 'u' ∧ letter.toNat < 0x80 := by
  have all : ∀ e ∈ escapes, simpleEscape? e.1 = some e.2 ∧ e.1 ≠ 'u' ∧ e.1.toNat < 0x80 := by decide
  exact all _ known

theorem Reads.passSimpleEscape {letter : Char} (known : (letter, c) ∈ escapes) :
    Reads passEscape (Utf8.encode [letter] ++ after) () after := by
  obtain ⟨simple, notHex, small⟩ := simpleEscape?_eq known
  rw [Utf8.encode_ascii small]
  refine Reads.next.bind ?_
  rw [Utf8.ofUInt8_ofNat small]
  split
  · contradiction
  · next is => exact absurd (Option.some.inj is) notHex
  · next other _ is =>
    obtain rfl := Option.some.inj is
    rw [simple]
    exact Reads.pure

theorem Reads.passHexEscape {digits : List Char} {n : Nat} (hex : Hex digits n) :
    Reads passEscape (117 :: (Utf8.encode digits ++ after)) () after :=
  Reads.next.bind ((Reads.hexDigits hex).bind Reads.pure)

theorem passesBody (body : BodyText text) : PassesBody (Utf8.encode text ++ 34 :: after) after := by
  induction body with
  | nil => exact .closing
  | @plain c text plain _ ih =>
    rw [Utf8.encode_cons, List.append_assoc]
    exact .plains (isPlain_of_utf8EncodeChar plain.1 plain.2.1 plain.2.2) ih
  | @escape letter c text known _ ih =>
    have bytes : Utf8.encode ('\\' :: letter :: text) = 92 :: (Utf8.encode [letter] ++ Utf8.encode text) := by
      rw [← Utf8.encode_append]
      rfl
    rw [bytes, List.cons_append, List.append_assoc]
    refine .escaped (Reads.passSimpleEscape known) ?_ ih
    simp only [List.length_append]
    omega
  | @hex digits text n hex _ ih =>
    rw [encode_hexEscape, List.cons_append, List.cons_append, List.append_assoc]
    refine .escaped (Reads.passHexEscape hex) ?_ ih
    simp only [List.length_cons, List.length_append]
    omega

theorem Reads.passString (body : BodyText text) : Reads passString (Utf8.encode text ++ 34 :: after) () after :=
  fun p => passesBody body _ (Nat.le_succ _) p

/-! ## Numbers -/

def NoDigit (text : List UInt8) : Prop := digit? (text.head?.map Char.ofUInt8) = none

theorem Reads.digits {bound : Nat} (all : ∀ c ∈ text, c.isDigit = true) (enough : text.length ≤ bound)
    (ends : NoDigit after) : Reads (digits bound) (Utf8.encode text ++ after) text.length after := by
  induction text generalizing bound with
  | nil =>
    cases bound with
    | zero => exact Reads.pure
    | succ bound =>
      refine Reads.look.bind ?_
      rw [Utf8.encode, List.flatMap_nil, List.nil_append, ends]
      exact Reads.pure
  | cons c text ih =>
    cases bound with
    | zero => cases enough
    | succ bound =>
      obtain ⟨digit, all⟩ := List.forall_mem_cons.mp all
      obtain ⟨known, small⟩ := digit?_of_isDigit digit
      rw [Utf8.encode_ascii small]
      refine Reads.look.bind ?_
      rw [List.cons_append, List.head?_cons, Option.map_some, known]
      exact Reads.advance.bind ((ih all (Nat.le_of_succ_le_succ enough)).bind Reads.pure)

theorem Reads.allDigits {α : Type} {x : α} {next : Nat → Reader α} (all : ∀ c ∈ text, c.isDigit = true)
    (ends : NoDigit between) (rest : Reads (next text.length) between x after) :
    Reads (Reader.left >>= fun bound => Reader.digits bound >>= next) (Utf8.encode text ++ between) x after := by
  have enough : text.length ≤ (Utf8.encode text ++ between).length := by
    rw [List.length_append]
    exact Nat.le_add_right_of_le (Utf8.length_le_encode text)
  exact Reads.left.bind ((Reads.digits all enough ends).bind rest)

theorem Reads.passExponentDigits (all : Digits text) (ends : NoDigit after) :
    Reads Follows.passExponentDigits (Utf8.encode text ++ after) () after := by
  obtain ⟨nonempty, all⟩ := all
  cases text with
  | nil => exact absurd rfl nonempty
  | cons c text =>
    obtain ⟨digit, all⟩ := List.forall_mem_cons.mp all
    obtain ⟨known, small⟩ := digit?_of_isDigit digit
    rw [Utf8.encode_ascii small]
    refine Reads.next.bind ?_
    rw [known]
    exact Reads.allDigits all ends Reads.pure

theorem noSign_of_isDigit (digit : c.isDigit = true) :
    ¬ (some (Char.ofUInt8 (UInt8.ofNat c.toNat)) = some '+' ∨ some (Char.ofUInt8 (UInt8.ofNat c.toNat)) = some '-') := by
  rw [Utf8.ofUInt8_ofNat (digit?_of_isDigit digit).2]
  rintro (is | is) <;>
  · rw [Option.some.inj is] at digit
    exact absurd digit (by decide)

theorem Reads.passExponent {letter : Char} {sign : List Char} (isLetter : letter = 'e' ∨ letter = 'E')
    (isSign : sign ∈ [[], ['+'], ['-']]) (all : Digits text) (ends : NoDigit after) :
    Reads passExponent (Utf8.encode (letter :: (sign ++ text)) ++ after) () after := by
  have digits := Reads.passExponentDigits all ends
  have small : letter.toNat < 0x80 := by
    rcases isLetter with rfl | rfl <;> decide
  rw [Follows.passExponent_eq, Utf8.encode_ascii small, List.cons_append, Utf8.encode_append, List.append_assoc]
  refine Reads.advance.bind (Reads.look.bind ?_)
  simp only [List.mem_cons, List.not_mem_nil, or_false] at isSign
  rcases isSign with rfl | rfl | rfl
  · rw [if_neg]
    · exact digits
    · obtain ⟨nonempty, all⟩ := all
      cases text with
      | nil => exact absurd rfl nonempty
      | cons c text =>
        have digit := (List.forall_mem_cons.mp all).1
        rw [Utf8.encode_ascii (digit?_of_isDigit digit).2]
        exact noSign_of_isDigit digit
  · exact Reads.advance.bind digits
  · exact Reads.advance.bind digits

theorem Reads.passExponentIf (exponent : ExponentText text) (ends : Ends after) :
    Reads passExponentIf (Utf8.encode text ++ after) () after := by
  rw [Follows.passExponentIf_eq]
  refine Reads.look.bind ?_
  cases exponent with
  | none =>
    rw [if_neg]
    · exact Reads.pure
    · cases after with
      | nil => rintro (is | is) <;> cases is
      | cons b after =>
        obtain ⟨-, -, notSmall, notCapital⟩ := ends b rfl
        rintro (is | is)
        · exact notSmall (Option.some.inj is)
        · exact notCapital (Option.some.inj is)
  | @digits letter sign text isLetter isSign all =>
    rw [if_pos]
    · exact Reads.passExponent isLetter isSign all ends.head
    · rcases isLetter with rfl | rfl
      · exact .inl rfl
      · exact .inr rfl

theorem stops_exponent (exponent : ExponentText text) (ends : Ends after) :
    NoDigit (Utf8.encode text ++ after) ∧ (Utf8.encode text ++ after).head?.map Char.ofUInt8 ≠ some '.' := by
  cases exponent with
  | none =>
    refine ⟨ends.head, ?_⟩
    cases after with
    | nil => exact nofun
    | cons b after => exact fun is => (ends b rfl).2.1 (Option.some.inj is)
  | digits isLetter _ _ =>
    rcases isLetter with rfl | rfl
    · exact ⟨rfl, fun is => absurd (show 'e' = '.' from Option.some.inj is) (by decide)⟩
    · exact ⟨rfl, fun is => absurd (show 'E' = '.' from Option.some.inj is) (by decide)⟩

theorem Reads.passAfterInteger {exponent : List Char} (fraction : FractionText text) (scale : ExponentText exponent)
    (ends : Ends after) :
    NoDigit (Utf8.encode (text ++ exponent) ++ after) ∧
      Reads passAfterInteger (Utf8.encode (text ++ exponent) ++ after) () after := by
  obtain ⟨noDigit, noPoint⟩ := stops_exponent scale ends
  rw [Follows.passAfterInteger_eq]
  cases fraction with
  | none =>
    refine ⟨noDigit, Reads.look.bind ?_⟩
    rw [List.nil_append, if_neg noPoint]
    exact Reads.passExponentIf scale ends
  | @digits text all =>
    refine ⟨rfl, Reads.look.bind ?_⟩
    rw [List.cons_append, Utf8.encode_ascii (by decide), Utf8.encode_append, List.cons_append, List.append_assoc,
      List.head?_cons, Option.map_some, Utf8.ofUInt8_ofNat (by decide), if_pos rfl]
    refine Reads.advance.bind (Reads.allDigits all.2 noDigit ?_)
    rw [if_neg (mt List.length_eq_zero_iff.mp all.1)]
    exact Reads.passExponentIf scale ends

/-- Whatever is a number is passed over from its first digit on. -/
theorem Reads.passNumeral (numeral : NumeralText text) (ends : Ends after) :
    Reads passNumeral (Utf8.encode text ++ after) () after := by
  obtain @⟨integer, _, _, digits, behindPoint, scale⟩ := numeral
  obtain ⟨noDigit, behind⟩ := Reads.passAfterInteger behindPoint scale ends
  rw [Utf8.encode_append, List.append_assoc]
  rcases digits with rfl | ⟨⟨nonempty, all⟩, noZero⟩
  · change Reads _ (48 :: (Utf8.encode _ ++ after)) _ _
    refine Reads.next.bind (Reads.look.bind ?_)
    rw [noDigit]
    exact behind
  · cases integer with
    | nil => exact absurd rfl nonempty
    | cons c integer =>
      obtain ⟨digit, all⟩ := List.forall_mem_cons.mp all
      obtain ⟨known, small⟩ := digit?_of_isDigit digit
      have zero : c.toNat - '0'.toNat ≠ 0 := by
        intro zero
        obtain ⟨least, -⟩ : 48 ≤ c.toNat ∧ c.toNat ≤ 57 := by
          simpa [Char.isDigit, UInt32.le_iff_toNat_le] using digit
        have same : c.toNat = '0'.toNat := Nat.le_antisymm (Nat.sub_eq_zero_iff_le.mp zero) least
        exact noZero (congrArg some (Char.toNat_inj.mp same))
      rw [Utf8.encode_ascii small]
      refine Reads.next.bind ?_
      rw [known]
      split
      · contradiction
      · next is => exact absurd (Option.some.inj is) zero
      · exact Reads.allDigits all noDigit behind

/-! ## One after another -/

variable {first : Bool} {parting : List Char} {opened : List Open} {p : Position}

theorem exists_token (blank : Blanks gap) (b : UInt8) (visible : isBlank b = false) (after : List UInt8) (p : Position) :
    ∃ p', token ⟨p, Utf8.encode gap ++ b :: after⟩ = .ok (some (Char.ofUInt8 b), ⟨p', b :: after⟩) :=
  Reads.token (blank_encode blank) visible rfl p

theorem nextItem_parted (parted : Parted first parting) (visible : isBlank b = false) (other : Char.ofUInt8 b ≠ ']')
    (after : List UInt8) (p : Position) :
    ∃ p', NextItem ⟨p, Utf8.encode parting ++ b :: after⟩ first true ⟨p', b :: after⟩ := by
  cases parted with
  | first blank =>
    obtain ⟨p', looked⟩ := exists_token blank b visible after p
    exact ⟨p', .begins looked other⟩
  | @comma gap behind blank also =>
    obtain ⟨p', looked⟩ := exists_token blank 44 rfl (Utf8.encode behind ++ b :: after) p
    obtain ⟨p'', next⟩ := exists_token also b visible after (p'.after 44)
    rw [Utf8.encode_append, List.append_assoc]
    exact ⟨p'', .follows looked next⟩

theorem nextMember_parted (parted : Parted first parting) (after : List UInt8) (p : Position) :
    ∃ p', NextMember ⟨p, Utf8.encode parting ++ 34 :: after⟩ first true ⟨p', 34 :: after⟩ := by
  cases parted with
  | first blank =>
    obtain ⟨p', looked⟩ := exists_token blank 34 rfl after p
    exact ⟨p', .begins looked⟩
  | @comma gap behind blank also =>
    obtain ⟨p', looked⟩ := exists_token blank 44 rfl (Utf8.encode behind ++ 34 :: after) p
    obtain ⟨p'', next⟩ := exists_token also 34 rfl after (p'.after 44)
    rw [Utf8.encode_append, List.append_assoc]
    exact ⟨p'', .follows looked next⟩

/-- A comma or what closes an array or object stands behind a value, maybe after blanks. -/
theorem ends_parted (parted : Parted false parting) : Ends (Utf8.encode parting ++ after) := by
  cases parted with
  | comma blank =>
    rw [Utf8.encode_append, List.append_assoc]
    exact (blank_encode blank).ends .comma

theorem ends_itemsText {values : List (List Char)} (inside : ItemsText false values text) :
    Ends (Utf8.encode text ++ after) := by
  cases inside with
  | none blank =>
    rw [Utf8.encode_append, List.append_assoc]
    exact (blank_encode blank).ends .bracket
  | one parted =>
    rw [Utf8.encode_append, List.append_assoc]
    exact ends_parted parted

theorem ends_membersText {κ : Type} {IsKey : List Char → κ → Prop} {members : List (κ × List Char)}
    (inside : MembersText IsKey false members text) : Ends (Utf8.encode text ++ after) := by
  cases inside with
  | none blank =>
    rw [Utf8.encode_append, List.append_assoc]
    exact (blank_encode blank).ends .brace
  | one parted =>
    rw [Utf8.encode_append, List.append_assoc]
    exact ends_parted parted

/-! ## Values -/

theorem exists_digit (numeral : NumeralText text) : ∃ c rest, text = c :: rest ∧ c.isDigit = true := by
  obtain ⟨rfl | ⟨⟨nonempty, all⟩, -⟩, -, -⟩ := numeral
  · exact ⟨'0', _, rfl, by decide⟩
  · next integer _ _ =>
    cases integer with
    | nil => exact absurd rfl nonempty
    | cons c integer => exact ⟨c, _, rfl, all c List.mem_cons_self⟩

theorem begins_of_isDigit (digit : c.isDigit = true) : Layout.Begins (Utf8.encode (c :: text)) := by
  obtain ⟨-, small⟩ := digit?_of_isDigit digit
  refine ⟨UInt8.ofNat c.toNat, Utf8.encode text, Utf8.encode_ascii small, visible_of_isDigit digit, ?_⟩
  rw [Utf8.ofUInt8_ofNat small]
  rintro rfl
  exact absurd digit (by decide)

theorem begins_valueText (value : ValueText text) : Layout.Begins (Utf8.encode text) := by
  cases value with
  | null => exact ⟨110, _, rfl, rfl, by decide⟩
  | yes => exact ⟨116, _, rfl, rfl, by decide⟩
  | no => exact ⟨102, _, rfl, rfl, by decide⟩
  | natural numeral =>
    obtain ⟨c, rest, rfl, digit⟩ := exists_digit numeral
    exact begins_of_isDigit digit
  | negative => exact ⟨45, _, rfl, rfl, by decide⟩
  | string => exact ⟨34, _, rfl, rfl, by decide⟩
  | array => exact ⟨91, _, rfl, rfl, by decide⟩
  | object => exact ⟨123, _, rfl, rfl, by decide⟩

/-- The text is passed over wherever it stands. -/
def PassedOver (text : List Char) : Prop :=
  ∀ (gap after : List UInt8), Blank gap → Ends after → ∀ p, ∃ p', Passed ⟨p, gap ++ (Utf8.encode text ++ after)⟩ ⟨p', after⟩

theorem PassedOver.of_opening (begins : Layout.Begins (Utf8.encode text))
    (read : ∀ after, Ends after → Reads passOpening (Utf8.encode text ++ after) none after) : PassedOver text := by
  intro gap after blank ends p
  obtain ⟨p', opens⟩ := (read after ends).behind blank p
  refine ⟨p', passed_of_opening opens ?_⟩
  obtain ⟨b, rest, is, -⟩ := begins
  simp only [is, List.length_append, List.length_cons]
  omega

theorem PassedOver.of_closed (frame : Open) (begins : Char) (small : begins.toNat < 0x80)
    (opens : ∀ inside, Reads passOpening (UInt8.ofNat begins.toNat :: inside) (some frame) inside)
    (closed : ∀ after p, ∃ p', Closed frame true ⟨p, Utf8.encode text ++ after⟩ ⟨p', after⟩) :
    PassedOver (begins :: text) := by
  intro gap after blank _ p
  rw [Utf8.encode_ascii small]
  obtain ⟨p', opened⟩ := (opens (Utf8.encode text ++ after)).behind blank p
  obtain ⟨p'', closes⟩ := closed after p'
  refine ⟨p'', closes.passed opened ?_⟩
  simp only [List.length_append, List.length_cons]
  omega

theorem closed_itemsText {values : List (List Char)} (inside : ItemsText first values text)
    (each : ∀ value ∈ values, ValueText value ∧ PassedOver value) (after : List UInt8) (p : Position) :
    ∃ p', Closed .array first ⟨p, Utf8.encode text ++ after⟩ ⟨p', after⟩ := by
  induction inside generalizing p with
  | none blank =>
    rw [Utf8.encode_append, List.append_assoc]
    obtain ⟨p', looked⟩ := exists_token blank 93 rfl after p
    exact ⟨p'.after 93, .endsArray looked⟩
  | @one first parting value text values parted more ih =>
    obtain ⟨⟨isValue, passes⟩, each⟩ := List.forall_mem_cons.mp each
    obtain ⟨b, rest, is, visible, other⟩ := begins_valueText isValue
    simp only [Utf8.encode_append, List.append_assoc]
    have begun : Utf8.encode value ++ (Utf8.encode text ++ after) = b :: (rest ++ (Utf8.encode text ++ after)) := by
      rw [is, List.cons_append]
    obtain ⟨p₁, next⟩ := nextItem_parted parted visible other (rest ++ (Utf8.encode text ++ after)) p
    rw [← begun] at next
    obtain ⟨p₂, one⟩ := passes [] _ .nil (ends_itemsText more) p₁
    obtain ⟨p₃, closed⟩ := ih each p₂
    exact ⟨p₃, .ofItem next one closed⟩

theorem passKey_eq (outer : List Open) : passKey (.object :: outer) = passKey [.object] := rfl

theorem Reads.passKey {body : List Char} (isKey : BodyText body) (blank : Blanks gap) :
    Reads (passKey [.object])
      (34 :: (Utf8.encode body ++ 34 :: (Utf8.encode gap ++ 58 :: after))) () after :=
  (Reads.token .nil rfl (show _ = '"' by decide)).bind
    (Reads.advance.bind ((Reads.passString isKey).bind (Reads.colon (blank_encode blank))))

theorem encode_member (parting body gap behind value text : List Char) (after : List UInt8) :
    Utf8.encode (parting ++ '"' :: (body ++ '"' :: (gap ++ ':' :: (behind ++ (value ++ text))))) ++ after =
      Utf8.encode parting ++ 34 :: (Utf8.encode body ++ 34 :: (Utf8.encode gap ++ 58 ::
        (Utf8.encode behind ++ (Utf8.encode value ++ (Utf8.encode text ++ after))))) := by
  simp only [Utf8.encode_append, Utf8.encode_cons, List.append_assoc]
  rfl

theorem closed_membersText {members : List (Unit × List Char)}
    (inside : MembersText (fun body _ => BodyText body) first members text)
    (each : ∀ member ∈ members, PassedOver member.2) (after : List UInt8) (p : Position) :
    ∃ p', Closed .object first ⟨p, Utf8.encode text ++ after⟩ ⟨p', after⟩ := by
  induction inside generalizing p with
  | none blank =>
    rw [Utf8.encode_append, List.append_assoc]
    obtain ⟨p', looked⟩ := exists_token blank 125 rfl after p
    exact ⟨p'.after 125, .endsObject looked⟩
  | @one first parting body gap behind value text key members parted isKey blank also more ih =>
    obtain ⟨passes, each⟩ := List.forall_mem_cons.mp each
    rw [encode_member]
    obtain ⟨p₁, next⟩ := nextMember_parted parted _ p
    obtain ⟨p₂, keyed⟩ := Reads.passKey isKey blank p₁
    obtain ⟨p₃, one⟩ := passes _ _ (blank_encode also) (ends_membersText more) p₂
    obtain ⟨p₄, closed⟩ := ih each p₃
    refine ⟨p₄, .ofMember next (fun outer => (congrFun (passKey_eq outer) _).trans keyed) ?_ one closed⟩
    simp only [List.length_append, List.length_cons]
    omega

theorem Reads.passNatural (numeral : NumeralText text) (ends : Ends after) :
    Reads passOpening (Utf8.encode text ++ after) none after := by
  intro p
  obtain ⟨p', passed⟩ := Reads.passNumeral numeral ends p
  obtain ⟨c, rest, rfl, digit⟩ := exists_digit numeral
  obtain ⟨-, small⟩ := digit?_of_isDigit digit
  have range : '0' ≤ c ∧ c ≤ '9' := by
    simpa [Char.isDigit, Char.le_def] using digit
  rw [Utf8.encode_ascii small, List.cons_append] at passed ⊢
  have looked : Reader.token ⟨p, UInt8.ofNat c.toNat :: (Utf8.encode rest ++ after)⟩ = _ :=
    token_eq (visible_of_isDigit digit)
  rw [Utf8.ofUInt8_ofNat small] at looked
  exact ⟨p', (passOpening_digit looked range).trans (bind_run passed)⟩

theorem passedOver_valueText (value : ValueText text) : PassedOver text := by
  induction value with
  | null =>
    exact .of_opening (begins_valueText .null) fun _ _ => (Reads.token .nil rfl (show _ = 'n' by decide)).bind
      (Reads.advance.bind ((Reads.word ['u', 'l', 'l'] rfl).bind Reads.pure))
  | yes =>
    exact .of_opening (begins_valueText .yes) fun _ _ => (Reads.token .nil rfl (show _ = 't' by decide)).bind
      (Reads.advance.bind ((Reads.word ['r', 'u', 'e'] rfl).bind Reads.pure))
  | no =>
    exact .of_opening (begins_valueText .no) fun _ _ => (Reads.token .nil rfl (show _ = 'f' by decide)).bind
      (Reads.advance.bind ((Reads.word ['a', 'l', 's', 'e'] rfl).bind Reads.pure))
  | natural numeral =>
    exact .of_opening (begins_valueText (.natural numeral)) fun _ ends => Reads.passNatural numeral ends
  | negative numeral =>
    exact .of_opening (begins_valueText (.negative numeral)) fun _ ends =>
      (Reads.token .nil rfl (show _ = '-' by decide)).bind
        (Reads.advance.bind ((Reads.passNumeral numeral ends).bind Reads.pure))
  | @string text body =>
    refine .of_opening (begins_valueText (.string body)) fun after _ => ?_
    have bytes : Utf8.encode ('"' :: (text ++ ['"'])) ++ after = 34 :: (Utf8.encode text ++ 34 :: after) := by
      rw [Utf8.encode_cons, Utf8.encode_append, List.append_assoc, List.append_assoc]
      rfl
    rw [bytes]
    exact (Reads.token .nil rfl (show _ = '"' by decide)).bind
      (Reads.advance.bind ((Reads.passString body).bind Reads.pure))
  | array inside each ih =>
    refine .of_closed .array '[' (by decide) (fun rest => ?_)
      (closed_itemsText inside fun value there => ⟨each value there, ih value there⟩)
    exact (Reads.token .nil rfl (show _ = '[' by decide)).bind (Reads.advance.bind Reads.pure)
  | object inside each ih =>
    refine .of_closed .object '\x7b' (by decide) (fun rest => ?_) (closed_membersText inside ih)
    exact (Reads.token .nil rfl (show _ = '\x7b' by decide)).bind (Reads.advance.bind Reads.pure)

theorem Reads.passMember {behind : List Char} (value : ValueText text) (blank : Blanks gap) (also : Blanks behind)
    (ends : Ends after) :
    Reads passMember (Utf8.encode gap ++ 58 :: (Utf8.encode behind ++ (Utf8.encode text ++ after))) () after := by
  refine (Reads.colon (blank_encode blank)).bind fun p => ?_
  obtain ⟨p', passed⟩ := passedOver_valueText value _ after (blank_encode also) ends p
  exact ⟨p', passed.passValue⟩

end ChannelFeed.Json.Reader
