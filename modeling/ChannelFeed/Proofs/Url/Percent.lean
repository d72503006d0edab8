import ChannelFeed.Proofs.Text.Utf8
import ChannelFeed.Url.Basic

/-!
# Percent encoding is undone

Where percent signs are themselves encoded, a text is got back from its encoded form, so that different texts have
different ones. In particular only dots are encoded as something that a path takes for dots.
-/

namespace ChannelFeed.Url

variable {set : EncodeSet} {c d : Char} {cs ds text : List Char} {b : UInt8}

theorem hexDigit?_upperHexDigit : ∀ n < 16, hexDigit? (upperHexDigit n) = some n := by decide

theorem percentDecode_percentByte : percentDecode (percentByte b ++ text) = b :: percentDecode text := by
  have bound : b.toNat < 256 := b.toNat_lt
  have high := hexDigit?_upperHexDigit (b.toNat / 16) (by omega)
  have low := hexDigit?_upperHexDigit (b.toNat % 16) (by omega)
  have value : b.toNat / 16 * 16 + b.toNat % 16 = b.toNat := by omega
  simp only [percentByte, List.cons_append, List.nil_append, percentDecode, high, low, value, UInt8.ofNat_toNat]

theorem percentDecode_percentBytes (bytes : List UInt8) :
    percentDecode (bytes.flatMap percentByte ++ text) = bytes ++ percentDecode text := by
  induction bytes with
  | nil => rfl
  | cons b bytes ih => rw [List.flatMap_cons, List.append_assoc, percentDecode_percentByte, ih, List.cons_append]

theorem percentDecode_plain (plain : c ≠ '%') :
    percentDecode (c :: text) = String.utf8EncodeChar c ++ percentDecode text :=
  percentDecode.eq_3 c text fun _ _ _ percent _ => plain percent

theorem percentDecode_encodeChar (percent : set.contains '%' = true) :
    percentDecode (encodeChar set c ++ text) = String.utf8EncodeChar c ++ percentDecode text := by
  unfold encodeChar
  split
  · exact percentDecode_percentBytes _
  · next kept =>
    refine percentDecode_plain ?_
    rintro rfl
    exact kept percent

theorem percentDecode_percentEncode (percent : set.contains '%' = true) (cs : List Char) :
    percentDecode (percentEncode set cs) = Utf8.encode cs := by
  induction cs with
  | nil => rfl
  | cons c cs ih =>
    rw [percentEncode, List.flatMap_cons, percentDecode_encodeChar percent, Utf8.encode_cons]
    exact congrArg _ ih

/-- What stands in an encoded text stood in it before and is not to be encoded, or is a percent sign or a digit. -/
theorem mem_percentEncode (there : d ∈ percentEncode set cs) :
    (d ∈ cs ∧ set.contains d = false) ∨ d = '%' ∨ ∃ n < 16, d = upperHexDigit n := by
  obtain ⟨c, inText, there⟩ := List.mem_flatMap.mp there
  unfold encodeChar at there
  split at there
  · obtain ⟨b, -, there⟩ := List.mem_flatMap.mp there
    have bound : b.toNat < 256 := b.toNat_lt
    simp only [percentByte, List.mem_cons, List.not_mem_nil, or_false] at there
    rcases there with rfl | rfl | rfl
    · exact .inr (.inl rfl)
    · exact .inr (.inr ⟨_, by omega, rfl⟩)
    · exact .inr (.inr ⟨_, by omega, rfl⟩)
  · next kept =>
    obtain rfl := List.mem_singleton.mp there
    exact .inl ⟨inText, Bool.eq_false_iff.mpr kept⟩

/-- A character that parts a URL does not come into an encoded text. -/
theorem not_mem_percentEncode (parts : d ∈ ['/', '\\', '?', '#']) (absent : d ∈ cs → set.contains d = true) :
    d ∉ percentEncode set cs := by
  have noDigit : ∀ n < 16, upperHexDigit n ∉ ['/', '\\', '?', '#'] := by decide
  intro there
  rcases mem_percentEncode there with ⟨inText, kept⟩ | rfl | ⟨n, small, rfl⟩
  · rw [absent inText] at kept
    cases kept
  · exact absurd parts (by decide)
  · exact noDigit n small parts

theorem toLower_cases (lower : c.toLower = d) : c = d ∨ (65 ≤ c.toNat ∧ c.toNat ≤ 90 ∧ d.toNat = c.toNat + 32) := by
  unfold Char.toLower at lower
  split at lower
  · next capital =>
    have low : 65 ≤ c.val.toNat := UInt32.le_iff_toNat_le.mp capital.1
    have high : c.val.toNat ≤ 90 := UInt32.le_iff_toNat_le.mp capital.2
    have sum : (c.val + ('a'.val - 'A'.val)).toNat = c.val.toNat + 32 := by
      rw [UInt32.toNat_add]
      exact Nat.mod_eq_of_lt (show c.val.toNat + 32 < 4294967296 by omega)
    exact .inr ⟨low, high, lower ▸ sum⟩
  · exact .inl lower

theorem toLower_eq (noLetter : d.toNat < 97) (lower : c.toLower = d) : c = d := by
  rcases toLower_cases lower with same | ⟨low, -, sum⟩
  · exact same
  · omega

theorem hexDigit?_of_toLower (lower : c.toLower = 'e') : hexDigit? c = some 14 := by
  rcases toLower_cases lower with rfl | ⟨-, -, sum⟩
  · rfl
  · have capital : c.toNat = 'E'.toNat := Nat.add_right_cancel (m := 32) sum.symm
    rw [Char.toNat_inj.mp capital]
    rfl

theorem exists_behind_dot (dot : text.map Char.toLower = '.' :: ds) :
    ∃ rest, rest.map Char.toLower = ds ∧ percentDecode text = 46 :: percentDecode rest := by
  obtain ⟨c, rest, rfl, lower, more⟩ := List.map_eq_cons_iff.mp dot
  obtain rfl := toLower_eq (by decide) lower
  exact ⟨rest, more, percentDecode_plain (by decide)⟩

theorem exists_behind_encoded_dot (dot : text.map Char.toLower = '%' :: '2' :: 'e' :: ds) :
    ∃ rest, rest.map Char.toLower = ds ∧ percentDecode text = 46 :: percentDecode rest := by
  obtain ⟨percent, text, rfl, isPercent, dot⟩ := List.map_eq_cons_iff.mp dot
  obtain ⟨high, text, rfl, isHigh, dot⟩ := List.map_eq_cons_iff.mp dot
  obtain ⟨low, rest, rfl, isLow, more⟩ := List.map_eq_cons_iff.mp dot
  obtain rfl := toLower_eq (by decide) isPercent
  obtain rfl := toLower_eq (by decide) isHigh
  refine ⟨rest, more, ?_⟩
  rw [percentDecode, show hexDigit? '2' = some 2 from rfl, hexDigit?_of_toLower isLow]
  rfl

theorem percentDecode_of_isDot (dot : isDot text = true) : percentDecode text = [46] := by
  unfold isDot at dot
  rw [Bool.or_eq_true, decide_eq_true_iff, decide_eq_true_iff] at dot
  rcases dot with rfl | dot
  · rfl
  · obtain ⟨rest, ended, decoded⟩ := exists_behind_encoded_dot dot
    rw [decoded, List.map_eq_nil_iff.mp ended]
    rfl

theorem percentDecode_of_isDoubleDot (dots : isDoubleDot text = true) : percentDecode text = [46, 46] := by
  have two {one : List Char} (first : ∃ rest, rest.map Char.toLower = one ∧ percentDecode text = 46 :: percentDecode rest)
      (second : ∀ {rest : List Char}, rest.map Char.toLower = one →
        ∃ last, last.map Char.toLower = [] ∧ percentDecode rest = 46 :: percentDecode last) :
      percentDecode text = [46, 46] := by
    obtain ⟨rest, more, decoded⟩ := first
    obtain ⟨last, ended, decodedRest⟩ := second more
    rw [decoded, decodedRest, List.map_eq_nil_iff.mp ended]
    rfl
  simp only [isDoubleDot, List.map_cons, List.map_nil, List.contains_eq_mem, decide_eq_true_iff, List.mem_cons,
    List.not_mem_nil, or_false] at dots
  rcases dots with dots | dots | dots | dots
  · exact two (exists_behind_dot dots) exists_behind_dot
  · exact two (exists_behind_encoded_dot dots) exists_behind_dot
  · exact two (exists_behind_dot dots) exists_behind_encoded_dot
  · exact two (exists_behind_encoded_dot dots) exists_behind_encoded_dot

theorem eq_dot_of_isDot (percent : set.contains '%' = true) (dot : isDot (percentEncode set cs) = true) :
    cs = ['.'] := by
  refine Utf8.encode_injective ?_
  rw [← percentDecode_percentEncode percent, percentDecode_of_isDot dot]
  rfl

theorem eq_dots_of_isDoubleDot (percent : set.contains '%' = true)
    (dots : isDoubleDot (percentEncode set cs) = true) : cs = ['.', '.'] := by
  refine Utf8.encode_injective ?_
  rw [← percentDecode_percentEncode percent, percentDecode_of_isDoubleDot dots]
  rfl

end ChannelFeed.Url
