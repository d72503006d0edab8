import ChannelFeed.Proofs.Json.Reads
import ChannelFeed.Json.Printer

/-!
# Numbers are read as they were written

Every integer is read back from its digits. Not every double is read back from its text; but one that is,
read alone, is also read back in front of anything that no numeral goes on with.
-/

namespace ChannelFeed.Json.Reader

variable {α β : Type} {c : Char} {cs : List Char} {after : List UInt8}

/-- A numeral does not go on with this text. -/
def Ends (text : List UInt8) : Prop :=
  ∀ b ∈ text.head?, digit? (some (Char.ofUInt8 b)) = none ∧ Char.ofUInt8 b ≠ '.' ∧ Char.ofUInt8 b ≠ 'e' ∧
    Char.ofUInt8 b ≠ 'E'

theorem Ends.nil : Ends [] := by rintro b ⟨⟩

theorem Ends.head (ends : Ends after) : digit? (after.head?.map Char.ofUInt8) = none := by
  cases after with
  | nil => rfl
  | cons b after => exact (ends b rfl).1

theorem digit?_of_isDigit (digit : c.isDigit = true) :
    digit? (some (Char.ofUInt8 (UInt8.ofNat c.toNat))) = some (c.toNat - '0'.toNat) ∧ c.toNat < 0x80 := by
  obtain ⟨low, high⟩ : '0' ≤ c ∧ c ≤ '9' := by
    simpa [Char.isDigit, Char.le_def] using digit
  have small : c.toNat < 0x80 := Nat.lt_of_le_of_lt (UInt32.le_iff_toNat_le.mp high) (by decide)
  refine ⟨?_, small⟩
  rw [Utf8.ofUInt8_ofNat small]
  exact if_pos ⟨low, high⟩

theorem le_ofDigitChars (cs : List Char) (n : Nat) : n ≤ Nat.ofDigitChars 10 cs n := by
  induction cs generalizing n with
  | nil => exact Nat.le_refl n
  | cons c cs ih =>
    rw [Nat.ofDigitChars_cons]
    exact Nat.le_trans (by omega) (ih _)

theorem Reads.digitsUpTo {limit bound : Nat} (all : ∀ c ∈ cs, c.isDigit = true) (n : Nat)
    (fits : Nat.ofDigitChars 10 cs n ≤ limit) (enough : cs.length ≤ bound) (ends : Ends after) :
    Reads (digitsUpTo limit bound n) (Utf8.encode cs ++ after) (Nat.ofDigitChars 10 cs n, cs.length) after := by
  induction cs generalizing n bound with
  | nil =>
    cases bound with
    | zero => exact Reads.pure
    | succ bound =>
      refine Reads.look.bind ?_
      rw [Utf8.encode, List.flatMap_nil, List.nil_append, ends.head]
      exact Reads.pure
  | cons c cs ih =>
    cases bound with
    | zero => cases enough
    | succ bound =>
      obtain ⟨digit, all⟩ := List.forall_mem_cons.mp all
      obtain ⟨known, small⟩ := digit?_of_isDigit digit
      rw [Nat.ofDigitChars_cons, Nat.mul_comm] at fits ⊢
      rw [Utf8.encode_ascii small]
      refine Reads.look.bind ?_
      rw [List.cons_append, List.head?_cons, Option.map_some, known]
      have within : ¬ limit < n * 10 + (c.toNat - '0'.toNat) :=
        Nat.not_lt.mpr (Nat.le_trans (le_ofDigitChars cs _) fits)
      dsimp only
      rw [if_neg within]
      exact Reads.advance.bind ((ih all _ fits (Nat.le_of_succ_le_succ enough)).bind Reads.pure)

theorem Reads.afterInteger {negative : Bool} {n : Nat} {number : Numeral}
    (kind : Reads (Reader.whole negative n) after number after) (ends : Ends after) :
    Reads (afterInteger negative n) after number after := by
  refine Reads.look.bind ?_
  cases after with
  | nil => exact kind
  | cons b after =>
    obtain ⟨-, notPoint, notSmall, notBig⟩ := ends b rfl
    rw [List.head?_cons, Option.map_some]
    split
    · next is => exact absurd (Option.some.inj is) notPoint
    · next is => exact absurd (Option.some.inj is) notSmall
    · next is => exact absurd (Option.some.inj is) notBig
    · exact kind

theorem toDigits_head {n : Nat} (positive : 0 < n) :
    ∃ c cs, Nat.toDigits 10 n = c :: cs ∧ c.toNat - '0'.toNat ≠ 0 := by
  induction n using Nat.strongRecOn with
  | ind n ih =>
    by_cases small : n < 10
    · refine ⟨n.digitChar, [], Nat.toDigits_of_lt_base small, ?_⟩
      rw [Nat.toNat_digitChar_of_lt_ten small]
      change 48 + n - 48 ≠ 0
      omega
    · obtain ⟨c, cs, first, nonzero⟩ := ih (n / 10) (by omega) (by omega)
      exact ⟨c, cs ++ [(n % 10).digitChar], by
        rw [Nat.toDigits_of_base_le (by decide) (Nat.not_lt.mp small), first, List.cons_append], nonzero⟩

theorem Reads.numeral {negative : Bool} {n : Nat} {number : Numeral} (fits : n ≤ maxSignificand)
    (kind : Reads (Reader.whole negative n) after number after) (ends : Ends after) :
    Reads (numeral negative) (Utf8.encode (Nat.toDigits 10 n) ++ after) number after := by
  have ended := Reads.afterInteger kind ends
  rcases Nat.eq_zero_or_pos n with rfl | positive
  · rw [Nat.toDigits_zero]
    change Reads _ (48 :: after) _ _
    refine Reads.next.bind (Reads.look.bind ?_)
    rw [ends.head]
    exact ended
  · obtain ⟨c, cs, written, nonzero⟩ := toDigits_head positive
    have all : ∀ d ∈ c :: cs, d.isDigit = true := by
      intro d there
      exact Nat.isDigit_of_mem_toDigits (by decide) (by decide) (written ▸ there)
    obtain ⟨digit, all⟩ := List.forall_mem_cons.mp all
    obtain ⟨known, small⟩ := digit?_of_isDigit digit
    have value : Nat.ofDigitChars 10 cs (c.toNat - '0'.toNat) = n := by
      have total := Nat.ofDigitChars_ten_toDigits (n := n)
      rwa [written, Nat.ofDigitChars_cons, Nat.mul_zero, Nat.zero_add] at total
    rw [written, Utf8.encode_ascii small]
    refine Reads.next.bind ?_
    rw [known]
    split
    · contradiction
    · next zero => exact absurd (Option.some.inj zero) nonzero
    · next d _ is =>
      cases is
      have enough : cs.length ≤ (Utf8.encode cs ++ after).length := by
        rw [List.length_append]
        exact Nat.le_add_right_of_le (Utf8.length_le_encode cs)
      refine Reads.left.bind ((Reads.digitsUpTo all _ (value ▸ fits) enough ends).bind (Reads.look.bind ?_))
      rw [ends.head, value]
      exact ended

variable {inner : Option (Reader Json)} {text : List UInt8} {number : Numeral}

theorem visible_of_isDigit (digit : c.isDigit = true) : isBlank (UInt8.ofNat c.toNat) = false := by
  obtain ⟨low, high⟩ : '0' ≤ c ∧ c ≤ '9' := by
    simpa [Char.isDigit, Char.le_def] using digit
  have least : 48 ≤ c.toNat := UInt32.le_iff_toNat_le.mp low
  have greatest : c.toNat ≤ 57 := UInt32.le_iff_toNat_le.mp high
  have value := Utf8.toNat_ofNat (show c.toNat < 256 by omega)
  simp only [isBlank, Bool.or_eq_false_iff, beq_eq_false_iff_ne, ne_eq, ← UInt8.toNat_inj, value,
    UInt8.reduceToNat]
  omega

theorem valueWith_digit {p : Position} (digit : c.isDigit = true) :
    valueWith inner ⟨p, UInt8.ofNat c.toNat :: text⟩ =
      (do return (← Reader.numeral false).json : Reader Json) ⟨p, UInt8.ofNat c.toNat :: text⟩ := by
  obtain ⟨low, high⟩ : '0' ≤ c ∧ c ≤ '9' := by
    simpa [Char.isDigit, Char.le_def] using digit
  have other {d : Char} (is : some c = some d) : d.isDigit = true := Option.some.inj is ▸ digit
  refine (bind_run (token_eq (visible_of_isDigit digit))).trans ?_
  rw [Utf8.ofUInt8_ofNat (digit?_of_isDigit digit).2]
  refine congrFun ?_ _
  split
  · contradiction
  · next is => exact absurd (other is) (by decide)
  · next is => exact absurd (other is) (by decide)
  · next is => exact absurd (other is) (by decide)
  · next is => exact absurd (other is) (by decide)
  · next is => exact absurd (other is) (by decide)
  · next is => exact absurd (other is) (by decide)
  · next is => exact absurd (other is) (by decide)
  · next is =>
    cases is
    rw [if_pos ⟨low, high⟩]

theorem Reads.signed (read : Reads (Reader.numeral true) text number after) :
    Reads (valueWith inner) (45 :: text) number.json after := by
  have value : Reads (do return (← Reader.numeral true).json : Reader Json) text number.json after :=
    read.bind Reads.pure
  exact fun p => value (p.after 45)

theorem Reads.unsigned (digit : c.isDigit = true)
    (read : Reads (Reader.numeral false) (Utf8.encode (c :: cs) ++ text) number after) :
    Reads (valueWith inner) (Utf8.encode (c :: cs) ++ text) number.json after := by
  have value : Reads (do return (← Reader.numeral false).json : Reader Json) (Utf8.encode (c :: cs) ++ text)
      number.json after := read.bind Reads.pure
  rw [Utf8.encode_ascii (digit?_of_isDigit digit).2, List.cons_append] at value ⊢
  intro p
  rw [valueWith_digit digit]
  exact value p

theorem Reads.integer (n : JsonInt) (ends : Ends after) :
    Reads (valueWith inner) (Utf8.encode (intText n.value) ++ after) (.integer n) after := by
  obtain ⟨value, lower, upper⟩ := n
  unfold intText
  dsimp only
  split
  · next negative =>
    have size : 0 < value.natAbs ∧ value.natAbs ≤ 9223372036854775808 := by omega
    have kind : Reads (Reader.whole true value.natAbs) after (.negative value.natAbs size.2) after := by
      rw [Reader.whole, if_pos rfl, dif_pos size]
      exact Reads.pure
    have read : Reads (valueWith inner) _ _ after :=
      (Reads.numeral (by change _ ≤ 18446744073709551615; omega) kind ends).signed
    have same : (Numeral.negative value.natAbs size.2).json = .integer ⟨value, lower, upper⟩ := by
      simp only [Numeral.json, Json.integer.injEq, JsonInt.mk.injEq]
      omega
    exact same ▸ read
  · next natural =>
    have size : value.natAbs < UInt64.size := by
      change _ < 18446744073709551616
      omega
    have kind : Reads (Reader.whole false value.natAbs) after (.natural value.natAbs size) after := by
      rw [Reader.whole, if_neg Bool.false_ne_true, dif_pos size]
      exact Reads.pure
    have read := Reads.numeral (Nat.le_sub_one_of_lt size) kind ends
    have same : (Numeral.natural value.natAbs size).json = .integer ⟨value, lower, upper⟩ := by
      simp only [Numeral.json, Json.natural, Json.integer.injEq, JsonInt.mk.injEq]
      omega
    cases written : Nat.toDigits 10 value.natAbs with
    | nil => exact absurd written Nat.toDigits_ne_nil
    | cons c cs =>
      have digit : c.isDigit = true :=
        Nat.isDigit_of_mem_toDigits (by decide) (by decide) (written ▸ List.mem_cons_self)
      rw [written] at read
      exact same ▸ read.unsigned digit

end ChannelFeed.Json.Reader
