import ChannelFeed.Proofs.Json.Reads
import ChannelFeed.Json.Printer

/-!
# Strings are read as they were written

Whatever characters a string has: quotes, backslashes and control characters come back from their escapes,
and all others stand for themselves.
-/

namespace ChannelFeed.Json.Reader

variable {b : UInt8} {c : Char} {before between after bytes : List UInt8}

/-- A body is read from a text if the reader has a step for each byte of it. -/
def ReadsBody (before bytes after : List UInt8) : Prop :=
  ∀ bound, before.length ≤ bound → Reads (bodyBytes bound) before bytes after

def IsPlain (b : UInt8) : Prop := 32 ≤ b.toNat ∧ b.toNat ≠ 34 ∧ b.toNat ≠ 92

theorem ReadsBody.closing : ReadsBody (34 :: after) [] after := by
  intro bound enough p
  cases bound with
  | zero => cases enough
  | succ bound => exact ⟨p.after 34, rfl⟩

theorem ReadsBody.plain (plain : IsPlain b) (rest : ReadsBody before bytes after) :
    ReadsBody (b :: before) (b :: bytes) after := by
  intro bound enough p
  cases bound with
  | zero => cases enough
  | succ bound =>
    obtain ⟨p', read⟩ := rest bound (Nat.le_of_succ_le_succ enough) (p.after b)
    have value : (Char.ofUInt8 b).toNat = b.toNat := UInt8.toNat_toUInt32 b
    have notQuote : Char.ofUInt8 b ≠ '"' := fun is => plain.2.1 (value ▸ congrArg Char.toNat is)
    have notBackslash : Char.ofUInt8 b ≠ '\\' := fun is => plain.2.2 (value ▸ congrArg Char.toNat is)
    have notControl : ¬ b < 32 := fun less => Nat.not_lt.mpr plain.1 (UInt8.lt_iff_toNat_lt.mp less)
    refine ⟨p', ?_⟩
    rw [bodyBytes]
    dsimp only
    split
    · next is => exact absurd is notQuote
    · next is => exact absurd is notBackslash
    · rw [if_neg notControl]
      change (bodyBytes bound ⟨p.after b, before⟩ >>= _) = _
      rw [read]
      rfl

theorem ReadsBody.plains {text : List UInt8} (plain : ∀ b ∈ text, IsPlain b) (rest : ReadsBody before bytes after) :
    ReadsBody (text ++ before) (text ++ bytes) after := by
  induction text with
  | nil => exact rest
  | cons b text ih =>
    obtain ⟨plainByte, plain⟩ := List.forall_mem_cons.mp plain
    exact (ih plain).plain plainByte

theorem ReadsBody.escaped (escapes : Reads escape before c between) (shorter : between.length ≤ before.length)
    (rest : ReadsBody between bytes after) : ReadsBody (92 :: before) (String.utf8EncodeChar c ++ bytes) after := by
  intro bound enough p
  cases bound with
  | zero => cases enough
  | succ bound =>
    obtain ⟨p', read⟩ := escapes (p.after 92)
    obtain ⟨p'', readRest⟩ := rest bound (Nat.le_trans shorter (Nat.le_of_succ_le_succ enough)) p'
    refine ⟨p'', ?_⟩
    change (escape ⟨p.after 92, before⟩ >>= fun r => bodyBytes bound r.2 >>= fun s =>
      Except.ok (String.utf8EncodeChar r.1 ++ s.1, s.2)) = _
    rw [read]
    change (bodyBytes bound ⟨p', between⟩ >>= _) = _
    rw [readRest]
    rfl

theorem Reads.simpleEscape (known : simpleEscape? (Char.ofUInt8 b) = some c) :
    Reads escape (b :: after) c after := by
  refine Reads.next.bind ?_
  split
  · contradiction
  · next is =>
    rw [Option.some.inj is] at known
    cases known
  · next letter _ is =>
    cases is
    rw [known]
    exact Reads.pure

theorem hexDigit?_digitChar : ∀ d < 16, hexDigit? (Char.ofUInt8 (UInt8.ofNat (Nat.digitChar d).toNat)) = some d := by
  decide

theorem Reads.hexEscape {w x y z : UInt8} {digits : List Nat}
    (known : [w, x, y, z].mapM (fun b => hexDigit? (Char.ofUInt8 b)) = some digits) :
    Reads hexEscape (w :: x :: y :: z :: after) (digits.foldl (· * 16 + ·) 0) after := by
  intro p
  refine ⟨(((p.after w).after x).after y).after z, ?_⟩
  simp only [Reader.hexEscape, known]
  rfl

theorem digitChar_small : ∀ d < 16, (Nat.digitChar d).toNat < 0x80 := by decide

theorem Reads.controlEscape {n : Nat} (control : n < 0x20) :
    Reads escape
      (117 :: 48 :: 48 :: UInt8.ofNat (Nat.digitChar (n / 16)).toNat :: UInt8.ofNat (Nat.digitChar (n % 16)).toNat ::
        after)
      (Char.ofNat n) after := by
  have digits : [48, 48, UInt8.ofNat (Nat.digitChar (n / 16)).toNat, UInt8.ofNat (Nat.digitChar (n % 16)).toNat].mapM
      (fun x => hexDigit? (Char.ofUInt8 x)) = some [0, 0, n / 16, n % 16] := by
    have zero : hexDigit? (Char.ofUInt8 48) = some 0 := by decide
    simp only [List.mapM_cons, List.mapM_nil, zero, hexDigit?_digitChar (n / 16) (by omega),
      hexDigit?_digitChar (n % 16) (by omega)]
    rfl
  have value : [0, 0, n / 16, n % 16].foldl (· * 16 + ·) 0 = n := by
    simp only [List.foldl_cons, List.foldl_nil]
    omega
  have hex : Reads Reader.hexEscape _ _ after := Reads.hexEscape digits
  rw [value] at hex
  have low : isLowSurrogate n = false := by
    simp only [isLowSurrogate, Bool.and_eq_false_iff, decide_eq_false_iff_not]
    omega
  have high : isHighSurrogate n = false := by
    simp only [isHighSurrogate, Bool.and_eq_false_iff, decide_eq_false_iff_not]
    omega
  refine Reads.next.bind (hex.bind ?_)
  rw [low, high]
  exact Reads.pure

theorem isPlain_of_utf8EncodeChar (printed : 0x20 ≤ c.toNat) (notQuote : c ≠ '"') (notBackslash : c ≠ '\\') :
    ∀ b ∈ String.utf8EncodeChar c, IsPlain b := by
  have valid : c.val.toNat < 0x110000 := by
    rcases c.valid with low | high
    · exact Nat.lt_trans low (by decide)
    · exact high.2
  have other {d : Char} (differs : c ≠ d) : c.val.toNat ≠ d.toNat := fun same => differs (Char.toNat_inj.mp same)
  have notQuote : c.val.toNat ≠ 34 := other notQuote
  have notBackslash : c.val.toNat ≠ 92 := other notBackslash
  have printed : 0x20 ≤ c.val.toNat := printed
  have plain {n : Nat} (low : 32 ≤ n) (high : n < 256) (notQuote : n ≠ 34) (notBackslash : n ≠ 92) :
      IsPlain (UInt8.ofNat n) := by
    rw [IsPlain, Utf8.toNat_ofNat high]
    exact ⟨low, notQuote, notBackslash⟩
  unfold String.utf8EncodeChar
  generalize c.val.toNat = v at *
  simp only
  split
  · exact List.forall_mem_singleton.mpr (plain printed (by omega) notQuote notBackslash)
  have later (m : Nat) : IsPlain (UInt8.ofNat (m % 0x40 + 0x80)) := by
    apply plain <;> omega
  split
  · refine List.forall_mem_cons.mpr ⟨?_, List.forall_mem_singleton.mpr (later v)⟩
    apply plain <;> omega
  split
  · refine List.forall_mem_cons.mpr ⟨?_, List.forall_mem_cons.mpr ⟨later _, List.forall_mem_singleton.mpr (later v)⟩⟩
    apply plain <;> omega
  · refine List.forall_mem_cons.mpr ⟨?_, List.forall_mem_cons.mpr ⟨later _, List.forall_mem_cons.mpr ⟨later _,
      List.forall_mem_singleton.mpr (later v)⟩⟩⟩
    apply plain <;> omega

theorem ReadsBody.character (rest : ReadsBody before bytes after) :
    ReadsBody (Utf8.encode (charText c) ++ before) (String.utf8EncodeChar c ++ bytes) after := by
  unfold charText
  split
  · exact .escaped (Reads.simpleEscape (by decide)) (Nat.le_succ _) rest
  · exact .escaped (Reads.simpleEscape (by decide)) (Nat.le_succ _) rest
  · exact .escaped (Reads.simpleEscape (by decide)) (Nat.le_succ _) rest
  · exact .escaped (Reads.simpleEscape (by decide)) (Nat.le_succ _) rest
  · exact .escaped (Reads.simpleEscape (by decide)) (Nat.le_succ _) rest
  · exact .escaped (Reads.simpleEscape (by decide)) (Nat.le_succ _) rest
  · exact .escaped (Reads.simpleEscape (by decide)) (Nat.le_succ _) rest
  · split
    · next control =>
      have one : (Nat.digitChar (c.toNat / 16)).toNat < 0x80 := digitChar_small _ (by omega)
      have two : (Nat.digitChar (c.toNat % 16)).toNat < 0x80 := digitChar_small _ (by omega)
      have text : Utf8.encode ['\\', 'u', '0', '0', Nat.digitChar (c.toNat / 16), Nat.digitChar (c.toNat % 16)] =
          [92, 117, 48, 48, UInt8.ofNat (Nat.digitChar (c.toNat / 16)).toNat,
            UInt8.ofNat (Nat.digitChar (c.toNat % 16)).toNat] := by
        simp only [Utf8.encode_cons, Utf8.utf8EncodeChar_ascii one, Utf8.utf8EncodeChar_ascii two]
        rfl
      have escapes : Reads escape _ _ before := Reads.controlEscape control
      rw [Char.ofNat_toNat] at escapes
      rw [text]
      exact .escaped escapes (Nat.le_add_right before.length 5) rest
    · next notQuote notBackslash _ _ _ _ _ printed =>
      have alone : Utf8.encode [c] = String.utf8EncodeChar c := by
        rw [Utf8.encode_cons]
        exact List.append_nil _
      rw [alone]
      exact .plains (isPlain_of_utf8EncodeChar (Nat.not_lt.mp printed) notQuote notBackslash) rest

theorem ReadsBody.characters (cs : List Char) :
    ReadsBody (Utf8.encode (cs.flatMap charText) ++ 34 :: after) (Utf8.encode cs) after := by
  induction cs with
  | nil => exact .closing
  | cons c cs ih =>
    rw [List.flatMap_cons, Utf8.encode_append, List.append_assoc, Utf8.encode_cons]
    exact ih.character

theorem Reads.stringBody (s : String) :
    Reads stringBody (Utf8.encode (s.toList.flatMap charText) ++ 34 :: after) s after := by
  intro p
  obtain ⟨p', read⟩ := ReadsBody.characters s.toList _ (Nat.le_succ _) p
  refine ⟨p', ChannelFeed.bind_eq_ok.mpr ⟨_, read, ?_⟩⟩
  dsimp only
  rw [Utf8.text?_encode]
  rfl

theorem Reads.key (s : String) :
    Reads key (34 :: (Utf8.encode (s.toList.flatMap charText) ++ 34 :: after)) s after :=
  Reads.advance.bind (Reads.stringBody s)

theorem encode_stringText (s : String) :
    Utf8.encode (stringText s) ++ after = 34 :: (Utf8.encode (s.toList.flatMap charText) ++ 34 :: after) := by
  rw [stringText, Utf8.encode_append, List.append_assoc]
  rfl

end ChannelFeed.Json.Reader
