import ChannelFeed.Text.Utf8

/-!
# Decoding what was encoded

Every text is got back from its bytes, one character at a time, whatever bytes follow.
-/

namespace ChannelFeed.Utf8

variable {c : Char} {cs ds : List Char} {rest : List UInt8} {n : Nat}

theorem encode_cons : encode (c :: cs) = String.utf8EncodeChar c ++ encode cs := List.flatMap_cons

theorem encode_append : encode (cs ++ ds) = encode cs ++ encode ds := List.flatMap_append

theorem length_le_encode (cs : List Char) : cs.length ≤ (encode cs).length := by
  induction cs with
  | nil => exact Nat.le_refl _
  | cons c cs ih =>
    have some : 0 < (String.utf8EncodeChar c).length := List.length_pos_iff.mpr String.utf8EncodeChar_ne_nil
    rw [encode_cons, List.length_append, List.length_cons]
    omega

theorem toNat_ofNat (small : n < 256) : (UInt8.ofNat n).toNat = n := UInt8.toNat_ofNat_of_lt' small

theorem lead_one (small : n < 0x80) : step none (UInt8.ofNat n) = .char (Char.ofNat n) := by
  have value := toNat_ofNat (show n < 256 by omega)
  simp only [step, lead, UInt8.lt_iff_toNat_lt, value, UInt8.reduceToNat]
  rw [if_pos small]

theorem lead_two (low : 2 ≤ n) (high : n < 0x20) :
    step none (UInt8.ofNat (n + 0xC0)) = .more ⟨1, 0x80, 0xBF, n⟩ := by
  have value := toNat_ofNat (show n + 0xC0 < 256 by omega)
  simp only [step, lead, UInt8.lt_iff_toNat_lt, value, UInt8.reduceToNat]
  rw [if_neg (by omega), if_neg (by omega), if_pos (by omega), Nat.add_sub_cancel]

theorem lead_three (high : n < 0x10) :
    step none (UInt8.ofNat (n + 0xE0)) =
      .more ⟨2, if n = 0 then 0xA0 else 0x80, if n = 0xD then 0x9F else 0xBF, n⟩ := by
  have value := toNat_ofNat (show n + 0xE0 < 256 by omega)
  have first : n + 224 = 224 ↔ n = 0 := by omega
  have surrogates : n + 224 = 237 ↔ n = 0xD := by omega
  simp only [step, lead, UInt8.lt_iff_toNat_lt, ← UInt8.toNat_inj, value, UInt8.reduceToNat, first, surrogates]
  rw [if_neg (by omega), if_neg (by omega), if_neg (by omega), if_pos (by omega), Nat.add_sub_cancel]

theorem lead_four (high : n < 5) :
    step none (UInt8.ofNat (n + 0xF0)) =
      .more ⟨3, if n = 0 then 0x90 else 0x80, if n = 4 then 0x8F else 0xBF, n⟩ := by
  have value := toNat_ofNat (show n + 0xF0 < 256 by omega)
  have first : n + 240 = 240 ↔ n = 0 := by omega
  have last : n + 240 = 244 ↔ n = 4 := by omega
  simp only [step, lead, UInt8.lt_iff_toNat_lt, ← UInt8.toNat_inj, value, UInt8.reduceToNat, first, last]
  rw [if_neg (by omega), if_neg (by omega), if_neg (by omega), if_neg (by omega), if_pos (by omega),
    Nat.add_sub_cancel]

theorem take_inside {p : Pending} (small : n < 0x40) (low : p.low.toNat ≤ n + 0x80)
    (high : n + 0x80 ≤ p.high.toNat) :
    step (some p) (UInt8.ofNat (n + 0x80)) =
      if p.owed ≤ 1 then .char (Char.ofNat (p.bits * 64 + n))
      else .more ⟨p.owed - 1, 0x80, 0xBF, p.bits * 64 + n⟩ := by
  have value := toNat_ofNat (show n + 0x80 < 256 by omega)
  have inside : p.low ≤ UInt8.ofNat (n + 0x80) ∧ UInt8.ofNat (n + 0x80) ≤ p.high := by
    rw [UInt8.le_iff_toNat_le, UInt8.le_iff_toNat_le, value]
    exact ⟨low, high⟩
  rw [step, Pending.take, if_pos inside, value, Nat.add_sub_cancel]

theorem take_any {owed bits : Nat} (small : n < 0x40) :
    step (some ⟨owed, 0x80, 0xBF, bits⟩) (UInt8.ofNat (n + 0x80)) =
      if owed ≤ 1 then .char (Char.ofNat (bits * 64 + n))
      else .more ⟨owed - 1, 0x80, 0xBF, bits * 64 + n⟩ :=
  take_inside small (by change 128 ≤ _; omega) (by change _ ≤ 191; omega)

variable {pending : Option Pending} {p : Pending} {b : UInt8}

theorem decodeFrom_more (leads : step pending b = .more p) :
    decodeFrom pending (b :: rest) = decodeFrom (some p) rest := by
  cases pending <;> rw [decodeFrom, leads]

theorem decodeFrom_char (leads : step pending b = .char c) :
    decodeFrom pending (b :: rest) = (decodeFrom none rest).map (c :: ·) := by
  cases pending <;> rw [decodeFrom, leads]

theorem decodeFrom_utf8EncodeChar :
    decodeFrom none (String.utf8EncodeChar c ++ rest) = (decodeFrom none rest).map (c :: ·) := by
  have valid : c.val.toNat < 0xD800 ∨ 0xDFFF < c.val.toNat ∧ c.val.toNat < 0x110000 := c.valid
  have same : Char.ofNat c.val.toNat = c := Char.ofNat_toNat c
  unfold String.utf8EncodeChar
  generalize c.val.toNat = v at *
  simp only
  split
  · exact decodeFrom_char ((lead_one (by omega)).trans (congrArg Step.char same))
  split
  · have bits : v / 64 % 0x20 * 64 + v % 0x40 = v := by omega
    refine (decodeFrom_more (lead_two (by omega) (by omega))).trans ?_
    refine (decodeFrom_char (take_any (by omega))).trans ?_
    rw [bits, same]
    rfl
  split
  · have bits : (v / 4096 % 0x10 * 64 + v / 64 % 0x40) * 64 + v % 0x40 = v := by omega
    refine (decodeFrom_more (lead_three (by omega))).trans ?_
    refine (decodeFrom_more (take_inside (by omega) ?_ ?_)).trans ?_
    · dsimp only
      split
      · change 160 ≤ _
        omega
      · change 128 ≤ _
        omega
    · dsimp only
      split
      · change _ ≤ 159
        omega
      · change _ ≤ 191
        omega
    refine (decodeFrom_char (take_any (by omega))).trans ?_
    rw [bits, same]
    rfl
  · have bits : ((v / 262144 % 0x08 * 64 + v / 4096 % 0x40) * 64 + v / 64 % 0x40) * 64 + v % 0x40 = v := by omega
    refine (decodeFrom_more (lead_four (by omega))).trans ?_
    refine (decodeFrom_more (take_inside (by omega) ?_ ?_)).trans ?_
    · dsimp only
      split
      · change 144 ≤ _
        omega
      · change 128 ≤ _
        omega
    · dsimp only
      split
      · change _ ≤ 143
        omega
      · change _ ≤ 191
        omega
    refine (decodeFrom_more (take_any (by omega))).trans ?_
    refine (decodeFrom_char (take_any (by omega))).trans ?_
    rw [bits, same]
    rfl

theorem decode_encode (cs : List Char) : decode (encode cs) = some cs := by
  unfold decode
  induction cs with
  | nil => rfl
  | cons c cs ih => rw [encode_cons, decodeFrom_utf8EncodeChar, ih]; rfl

theorem encode_injective (same : encode cs = encode ds) : cs = ds := by
  have decoded := congrArg decode same
  rwa [decode_encode, decode_encode, Option.some_inj] at decoded

theorem text?_encode (s : String) : text? (encode s.toList) = some s := by
  rw [text?, decode_encode, Option.map_some, String.ofList_toList]

theorem utf8EncodeChar_ascii (small : c.toNat < 0x80) : String.utf8EncodeChar c = [UInt8.ofNat c.toNat] := by
  have small : c.val.toNat ≤ 0x7F := Nat.le_of_lt_succ small
  rw [String.utf8EncodeChar]
  exact if_pos small

theorem encode_ascii (small : c.toNat < 0x80) : encode (c :: cs) = UInt8.ofNat c.toNat :: encode cs := by
  rw [encode_cons, utf8EncodeChar_ascii small]
  rfl

theorem ofUInt8_ofNat (small : c.toNat < 0x80) : Char.ofUInt8 (UInt8.ofNat c.toNat) = c := by
  have value := toNat_ofNat (show c.toNat < 256 by omega)
  have byte : (Char.ofUInt8 (UInt8.ofNat c.toNat)).toNat = (UInt8.ofNat c.toNat).toNat := UInt8.toNat_toUInt32 _
  exact Char.toNat_inj.mp (byte.trans value)

theorem byteArray_toList (bytes : ByteArray) : bytes.toList = bytes.data.toList := by
  have loop (i : Nat) (done : List UInt8) :
      ByteArray.toList.loop bytes i done = done.reverse ++ bytes.data.toList.drop i := by
    fun_induction ByteArray.toList.loop bytes i done with
    | case1 i done inside ih =>
      have inside' : i < bytes.data.toList.length := by simpa using inside
      rw [ih, List.drop_eq_getElem_cons inside']
      simp [ByteArray.get!, inside]
    | case2 i done outside =>
      rw [List.drop_eq_nil_of_le (by simpa using Nat.le_of_not_lt outside), List.append_nil]
  exact loop 0 []

theorem toUTF8_toList (s : String) : s.toUTF8.toList = encode s.toList := by
  have bytes : s.toUTF8 = (encode s.toList).toByteArray := by
    conv => lhs; rw [← String.ofList_toList (s := s)]
    rfl
  rw [bytes, byteArray_toList, List.toList_data_toByteArray]

end ChannelFeed.Utf8
