import ChannelFeed.Json.Pass
import ChannelFeed.Proofs.Json.Doubles

/-!
# Passing over strings and numerals

A string or numeral that is read can also be passed over, and both end at the same place. Passing over is the simpler of
the two: it takes the digits of a numeral in one go, and the two halves of a surrogate pair one by one.
-/

namespace ChannelFeed.Json.Reader

variable {α β : Type} {c c' d : Cursor}

/-! ## What is left gets no longer -/

/-- The reader takes bytes from the front, if any. -/
def Shortens (reader : Reader α) : Prop :=
  ∀ c x c', reader c = .ok (x, c') → c'.rest.length ≤ c.rest.length

namespace Shortens

theorem pure {x : α} : Shortens (pure x : Reader α) := by
  rintro c _ _ ⟨⟩
  exact Nat.le_refl _

theorem fail {cause : Cause} : Shortens (fail cause : Reader α) := by
  rintro c _ _ ⟨⟩

theorem bind {first : Reader α} {next : α → Reader β} (one : Shortens first) (two : ∀ x, Shortens (next x)) :
    Shortens (first >>= next) := by
  intro c y c' read
  obtain ⟨x, d, known, read⟩ := bind_eq_ok.mp read
  exact Nat.le_trans (two x d y c' read) (one c x d known)

theorem advance : Shortens advance := by
  rintro ⟨p, text⟩ _ _ ⟨⟩
  cases text with
  | nil => exact Nat.le_refl _
  | cons b text => exact Nat.le_succ _

theorem next : Shortens next := by
  intro c x c' read
  cases read
  exact advance c () _ rfl

theorem look : Shortens look := by
  rintro c _ _ ⟨⟩
  exact Nat.le_refl _

theorem word (letters : List Char) : Shortens (word letters) := by
  induction letters with
  | nil => exact pure
  | cons letter letters ih =>
    refine next.bind fun taken => ?_
    split
    · exact fail
    · split
      · exact ih
      · exact fail

theorem hexEscape : Shortens hexEscape := by
  rintro ⟨p, text⟩ n c' read
  unfold Reader.hexEscape at read
  split at read
  · next a b d e rest same =>
    cases same
    dsimp only at read
    split at read
    · cases read
      exact Nat.le_add_right _ 4
    · cases read
  · cases read

theorem passEscape : Shortens passEscape := by
  refine next.bind fun taken => ?_
  split
  · exact fail
  · exact hexEscape.bind fun _ => pure
  · split
    · exact pure
    · exact fail

theorem of_stable {reader : Reader α} (stable : Stable.Always reader) : Shortens reader := by
  rintro ⟨p, text⟩ x ⟨p', left⟩ read
  exact (stable p text x p' left True.intro read).1.length_le

end Shortens

theorem length_of_numeral {negative : Bool} {n : Numeral} (read : numeral negative c = .ok (n, c')) :
    c'.rest.length ≤ c.advance.rest.length := by
  obtain ⟨first, d, taken, read⟩ := bind_eq_ok.mp read
  cases taken
  refine (?_ : Shortens _) _ n c' read
  split
  · split
    · exact .fail
    · exact .fail
  · refine .bind .look fun x => ?_
    split
    · exact fun _ _ _ h => nomatch h
    · exact .of_stable .afterInteger
  · rw [← bind_assoc]
    refine .bind (.of_stable .digitsUpTo) fun (n, count) => .bind .look fun x => ?_
    split
    · exact .of_stable .longInteger
    · exact .of_stable .afterInteger

theorem look_eq_ok {x : Option Char} (looked : look c = .ok (x, d)) : c.rest.head?.map Char.ofUInt8 = x ∧ c = d := by
  cases looked
  exact ⟨rfl, rfl⟩

theorem next_eq_ok {x : Option Char} (taken : next c = .ok (x, d)) :
    c.rest.head?.map Char.ofUInt8 = x ∧ c.advance = d := by
  cases taken
  exact ⟨rfl, rfl⟩

/-! ## Strings -/

theorem hexEscapeByte_eq_ok {expected : Char} (taken : hexEscapeByte expected c = .ok ((), d)) :
    c.rest.head?.map Char.ofUInt8 = some expected ∧ c.advance = d := by
  obtain ⟨next, e, looked, taken⟩ := bind_eq_ok.mp taken
  obtain ⟨is, rfl⟩ := look_eq_ok looked
  split at taken
  · cases taken
  · next letter =>
    obtain ⟨_, e, moved, taken⟩ := bind_eq_ok.mp taken
    cases moved
    split at taken
    · next same =>
      cases taken
      exact ⟨same ▸ is, rfl⟩
    · cases taken

theorem passEscape_hex {n : Nat} (letter : c.rest.head?.map Char.ofUInt8 = some 'u')
    (read : hexEscape c.advance = .ok (n, d)) : passEscape c = .ok ((), d) := by
  have taken : next c = .ok (some 'u', c.advance) := by
    rw [← letter]
    rfl
  exact (bind_run taken).trans (bind_run read)

/-- What is read as one escape is passed over as one or, if it is a surrogate pair, as two. -/
theorem passEscape_of_escape {char : Char} (read : escape c = .ok (char, c')) :
    passEscape c = .ok ((), c') ∨
      ∃ d, passEscape c = .ok ((), d) ∧ d.rest.head?.map Char.ofUInt8 = some '\\' ∧
        passEscape d.advance = .ok ((), c') := by
  obtain ⟨taken, e, known, read⟩ := bind_eq_ok.mp read
  obtain ⟨is, rfl⟩ := next_eq_ok known
  split at read
  · cases read
  · obtain ⟨n, d, first, read⟩ := bind_eq_ok.mp read
    split at read
    · cases read
    · split at read
      · obtain ⟨_, f, slash, read⟩ := bind_eq_ok.mp read
        obtain ⟨_, g, second, read⟩ := bind_eq_ok.mp read
        obtain ⟨m, h, low, read⟩ := bind_eq_ok.mp read
        split at read
        · obtain rfl : h = c' := congrArg Prod.snd (Except.ok.inj read)
          obtain ⟨isSlash, rfl⟩ := hexEscapeByte_eq_ok slash
          obtain ⟨isLetter, rfl⟩ := hexEscapeByte_eq_ok second
          exact .inr ⟨d, passEscape_hex is first, isSlash, passEscape_hex isLetter low⟩
        · cases read
      · cases read
        exact .inl (passEscape_hex is first)
  · next letter other =>
    refine .inl ((bind_run known).trans ?_)
    cases simple : simpleEscape? letter with
    | none =>
      simp only [simple] at read
      cases read
    | some plain =>
      simp only [simple] at read
      cases read
      simp only [simple, Option.isSome_some, if_true]
      rfl

theorem exists_of_head {p : Position} {text : List UInt8} {letter : Char}
    (is : text.head?.map Char.ofUInt8 = some letter) :
    ∃ b rest, text = b :: rest ∧ Char.ofUInt8 b = letter ∧ Cursor.advance ⟨p, text⟩ = ⟨p.after b, rest⟩ := by
  cases text with
  | nil => cases is
  | cons b rest => exact ⟨b, rest, rfl, Option.some.inj is, rfl⟩

theorem length_advance {letter : Char} (is : c.rest.head?.map Char.ofUInt8 = some letter) :
    c.advance.rest.length + 1 = c.rest.length := by
  obtain ⟨p, text⟩ := c
  obtain ⟨b, rest, rfl, -, -⟩ := exists_of_head (p := p) is
  rfl

theorem passBody_escape {bound : Nat} (is : c.rest.head?.map Char.ofUInt8 = some '\\')
    (escaped : passEscape c.advance = .ok ((), d)) : passBody (bound + 1) c = passBody bound d := by
  obtain ⟨p, text⟩ := c
  obtain ⟨b, rest, rfl, is, -⟩ := exists_of_head (p := p) is
  rw [passBody]
  simp only [is, escaped]
  rfl

/-- What is read as one escape is passed over within a body, so that there are still enough bytes for the rest. -/
theorem passBody_of_escape {bound : Nat} {char : Char} (is : c.rest.head?.map Char.ofUInt8 = some '\\')
    (read : escape c.advance = .ok (char, d)) (enough : c.rest.length ≤ bound) :
    d.rest.length < c.rest.length ∧ ∃ rest, passBody (bound + 1) c = passBody rest d ∧ d.rest.length < rest := by
  have taken := length_advance is
  rcases passEscape_of_escape read with passed | ⟨e, first, isSlash, second⟩
  · have shorter := Shortens.passEscape _ _ _ passed
    exact ⟨by omega, bound, passBody_escape is passed, by omega⟩
  · have half := Shortens.passEscape _ _ _ first
    have behind := length_advance isSlash
    have shorter := Shortens.passEscape _ _ _ second
    obtain ⟨bound, rfl⟩ : ∃ n, bound = n + 1 := ⟨bound - 1, by omega⟩
    have once : passBody (bound + 2) c = passBody (bound + 1) e := passBody_escape is first
    exact ⟨by omega, bound, once.trans (passBody_escape isSlash second), by omega⟩

theorem passBody_of_bodyBytes {bound other : Nat} {bytes : List UInt8} (read : bodyBytes bound c = .ok (bytes, c'))
    (enough : c.rest.length < other) : passBody other c = .ok ((), c') ∧ c'.rest.length ≤ c.rest.length := by
  induction bound generalizing c bytes other with
  | zero => cases read
  | succ bound ih =>
    obtain ⟨other, rfl⟩ : ∃ n, other = n + 1 := ⟨other - 1, by omega⟩
    obtain ⟨p, text⟩ := c
    cases text with
    | nil => cases read
    | cons b text =>
      unfold bodyBytes at read
      dsimp only at read
      split at read
      · next is =>
        cases read
        unfold passBody
        simp only [is]
        exact ⟨True.intro, Nat.le_succ _⟩
      · next is =>
        obtain ⟨⟨char, d⟩, escaped, read⟩ := ChannelFeed.bind_eq_ok.mp read
        obtain ⟨⟨bytes, e⟩, body, read⟩ := ChannelFeed.bind_eq_ok.mp read
        cases read
        obtain ⟨shorter, rest, same, still⟩ :=
          passBody_of_escape (c := ⟨p, b :: text⟩) (congrArg some is) escaped (Nat.le_of_lt_succ enough)
        obtain ⟨passed, left⟩ := ih body still
        exact ⟨same.trans passed, Nat.le_trans left (Nat.le_of_lt shorter)⟩
      · next notQuote notSlash =>
        split at read
        · cases read
        · next printed =>
          obtain ⟨⟨bytes, d⟩, body, read⟩ := ChannelFeed.bind_eq_ok.mp read
          cases read
          obtain ⟨rest, left⟩ := ih body (Nat.lt_of_succ_lt_succ enough)
          refine ⟨?_, Nat.le_succ_of_le left⟩
          unfold passBody
          dsimp only
          split
          · contradiction
          · contradiction
          · rw [if_neg printed]
            exact rest

theorem passString_of_stringBody {s : String} (read : stringBody c = .ok (s, c')) :
    passString c = .ok ((), c') ∧ c'.rest.length ≤ c.rest.length := by
  obtain ⟨⟨bytes, d⟩, body, read⟩ := ChannelFeed.bind_eq_ok.mp read
  dsimp only at read
  split at read
  · cases read
    exact passBody_of_bodyBytes body (Nat.lt_succ_self _)
  · cases read

/-! ## Numerals -/

/-- Whatever the reader accepts is passed over, and both end at the same place. -/
def Follows (reader : Reader α) (pass : Reader Unit) : Prop :=
  ∀ c x c', reader c = .ok (x, c') → pass c = .ok ((), c')

def digitAhead (c : Cursor) : Option Nat := digit? (c.rest.head?.map Char.ofUInt8)

def digitsEnd (p : Position) : List UInt8 → Cursor
  | [] => ⟨p, []⟩
  | b :: rest => if (digit? (some (Char.ofUInt8 b))).isSome then digitsEnd (p.after b) rest else ⟨p, b :: rest⟩

/-- The first place at or behind this one where no digit stands. -/
def behindDigits (c : Cursor) : Cursor := digitsEnd c.place c.rest

theorem behindDigits_stop (stops : digitAhead c = none) : behindDigits c = c := by
  obtain ⟨p, text⟩ := c
  cases text with
  | nil => rfl
  | cons b rest =>
    have stops : digit? (some (Char.ofUInt8 b)) = none := stops
    simp only [behindDigits, digitsEnd, stops]
    rfl

theorem behindDigits_go {n : Nat} (digit : digitAhead c = some n) : behindDigits c.advance = behindDigits c := by
  obtain ⟨p, text⟩ := c
  cases text with
  | nil => cases digit
  | cons b rest =>
    have digit : digit? (some (Char.ofUInt8 b)) = some n := digit
    simp only [behindDigits, digitsEnd, digit]
    rfl

theorem digits_run {bound : Nat} (enough : c.rest.length ≤ bound) :
    ∃ n, digits bound c = .ok (n, behindDigits c) ∧ (n = 0 → digitAhead c = none) := by
  obtain ⟨p, text⟩ := c
  induction text generalizing p bound with
  | nil => exact ⟨0, digits_stop rfl, fun _ => rfl⟩
  | cons b text ih =>
    cases digit : digitAhead ⟨p, b :: text⟩ with
    | none =>
      rw [behindDigits_stop digit]
      exact ⟨0, digits_stop digit, fun _ => rfl⟩
    | some d =>
      cases bound with
      | zero => cases enough
      | succ bound =>
        obtain ⟨n, run, -⟩ := ih (p.after b) (Nat.le_of_succ_le_succ enough)
        refine ⟨n + 1, ?_, fun zero => nomatch zero⟩
        rw [← behindDigits_go digit, digits_go digit]
        exact bind_run run

/-- Where a number stops growing, the digits behind it are still the same. -/
theorem digitsUpTo_end {limit bound n : Nat} {r : Nat × Nat} (read : digitsUpTo limit bound n c = .ok (r, d)) :
    behindDigits d = behindDigits c := by
  induction bound generalizing n c r with
  | zero =>
    cases read
    rfl
  | succ bound ih =>
    obtain ⟨p, text⟩ := c
    cases digit : digitAhead ⟨p, text⟩ with
    | none =>
      cases (digitsUpTo_stop digit).symm.trans read
      rfl
    | some value =>
      cases text with
      | nil => cases digit
      | cons b text =>
        rw [digitsUpTo_go digit] at read
        split at read
        · cases read
          rfl
        · obtain ⟨⟨m, count⟩, e, more, read⟩ := bind_eq_ok.mp read
          cases read
          exact (ih more).trans (behindDigits_go digit)

namespace Follows

theorem pure {x : α} : Follows (pure x) (pure ()) := by
  rintro c _ _ ⟨⟩
  rfl

theorem of_fails {reader : Reader α} {pass : Reader Unit} (fails : ∀ c r, reader c ≠ .ok r) : Follows reader pass :=
  fun c _ _ read => absurd read (fails c _)

theorem fail {cause : Cause} {pass : Reader Unit} : Follows (fail cause : Reader α) pass :=
  of_fails fun _ _ h => nomatch h

theorem bind {first : Reader α} {next : α → Reader β} {pass : α → Reader Unit} (rest : ∀ x, Follows (next x) (pass x)) :
    Follows (first >>= next) (first >>= pass) := by
  intro c y c' read
  obtain ⟨x, d, known, read⟩ := bind_eq_ok.mp read
  rw [bind_run known]
  exact rest x d y c' read

theorem scaled {negative : Bool} {significand : Nat} {exponent : Int} :
    Follows (scaled negative significand exponent) (Pure.pure ()) := by
  rcases scaled_cases negative significand exponent with ⟨x, is⟩ | is
  · rw [is]
    exact .pure
  · rw [is]
    exact .fail

theorem whole {negative : Bool} {n : Nat} : Follows (whole negative n) (Pure.pure ()) := by
  unfold Reader.whole
  split
  · split
    · exact .pure
    · exact .scaled
  · split
    · exact .pure
    · exact .scaled

/-- Where such a digit or none is next, what is read is passed over once all digits are. -/
def BehindDigits (here : Option Nat → Prop) (reader : Reader α) (pass : Reader Unit) : Prop :=
  ∀ c x c', here (digitAhead c) → reader c = .ok (x, c') → pass (behindDigits c) = .ok ((), c')

namespace BehindDigits

variable {here : Option Nat → Prop} {pass : Reader Unit}

theorem fail {cause : Cause} : BehindDigits here (Reader.fail cause : Reader α) pass := by
  rintro c _ _ _ ⟨⟩

theorem look {next : Option Char → Reader α}
    (more : ∀ x n, digit? x = some n → here (some n) → BehindDigits (· = some n) (next x) pass)
    (none : ∀ x, digit? x = none → here none → Follows (next x) pass) : BehindDigits here (look >>= next) pass := by
  intro c y c' holds read
  obtain ⟨x, d, looked, read⟩ := bind_eq_ok.mp read
  obtain ⟨rfl, rfl⟩ := look_eq_ok looked
  cases digit : digitAhead c with
  | none =>
    rw [behindDigits_stop digit]
    exact none _ digit (digit ▸ holds) c y c' read
  | some n => exact more _ n digit (digit ▸ holds) c y c' digit read

theorem digits {next : Nat → Reader α} (rest : ∀ n, Follows (next n) pass) :
    BehindDigits here (left >>= fun bound => digits bound >>= next) pass := by
  intro c x c' _ read
  obtain ⟨bound, d, counted, read⟩ := bind_eq_ok.mp read
  cases counted
  obtain ⟨n, run, -⟩ := digits_run (c := c) (Nat.le_refl _)
  rw [bind_run run] at read
  exact rest n _ x c' read

theorem advance {n : Nat} {next : Unit → Reader α} (rest : BehindDigits (fun _ => True) (next ()) pass) :
    BehindDigits (· = some n) (advance >>= next) pass := by
  intro c x c' digit read
  rw [bind_run (rfl : Reader.advance c = _)] at read
  rw [← behindDigits_go digit]
  exact rest _ x c' True.intro read

end BehindDigits

/-- A number may stop growing before its digits end. Those behind it are passed over with it. -/
theorem digitsUpTo {limit n : Nat} {next : Nat × Nat → Reader α} {pass : Nat → Reader Unit}
    (rest : ∀ r k, (k = 0 → r.2 = 0) → BehindDigits (fun ahead => k = 0 → ahead = none) (next r) (pass k)) :
    Follows (left >>= fun bound => digitsUpTo limit bound n >>= next)
      (left >>= fun bound => digits bound >>= pass) := by
  intro c y c' read
  obtain ⟨k, run, zero⟩ := digits_run (c := c) (Nat.le_refl _)
  obtain ⟨bound, d, counted, read⟩ := bind_eq_ok.mp read
  cases counted
  obtain ⟨r, d, grown, read⟩ := bind_eq_ok.mp read
  have stays (none : k = 0) : r.2 = 0 ∧ c = d := by
    obtain ⟨p, text⟩ := c
    cases (digitsUpTo_stop (zero none)).symm.trans grown
    exact ⟨rfl, rfl⟩
  refine (bind_run rfl).trans ((bind_run run).trans ?_)
  rw [← digitsUpTo_end grown]
  exact rest r k (fun none => (stays none).1) d y c' (fun none => (stays none).2 ▸ zero none) read

variable {negative : Bool} {significand : Nat} {exponent : Int}

/-- Passes over the digits of an exponent behind its sign. -/
def passExponentDigits : Reader Unit := do
  match digit? (← next) with
  | none => Reader.fail .badNumber
  | some _ =>
    let _ ← Reader.digits (← left)
    return

theorem passExponent_eq : passExponent = advance >>= fun _ => look >>= fun sign =>
    if sign = some '+' ∨ sign = some '-' then advance >>= fun _ => passExponentDigits else passExponentDigits := by
  refine bind_congr fun _ => bind_congr fun sign => ?_
  split
  · rfl
  · rfl
  · next notPlus notMinus => exact (if_neg (not_or.mpr ⟨notPlus, notMinus⟩)).symm

theorem passExponentIf_eq : passExponentIf = look >>= fun x =>
    if x = some 'e' ∨ x = some 'E' then passExponent else Pure.pure () := by
  refine bind_congr fun x => ?_
  split
  · rfl
  · rfl
  · next notSmall notCapital => exact (if_neg (not_or.mpr ⟨notSmall, notCapital⟩)).symm

theorem exponentPart : Follows (exponentPart negative significand exponent) passExponent := by
  rw [passExponent_eq]
  unfold Reader.exponentPart
  refine .bind fun _ => .bind fun sign => ?_
  extract_lets zero afterSign
  have rest (positive : Bool) : Follows (afterSign positive) passExponentDigits := by
    refine .bind fun first => ?_
    cases digit? first with
    | none =>
      dsimp only
      split
      · exact .fail
      · exact .fail
    | some d =>
      refine .digitsUpTo fun r k _ => .look (fun x n digit _ => ?_) fun x noDigit _ => ?_
      · simp only [digit]
        refine .advance ?_
        split
        · exact .fail
        · exact .digits fun _ => .pure
      · simp only [noDigit]
        exact .scaled
  split
  · exact .bind fun _ => rest true
  · exact .bind fun _ => rest false
  · next notPlus notMinus =>
    rw [if_neg (not_or.mpr ⟨notPlus, notMinus⟩)]
    exact rest true

theorem afterDigits : Follows (afterDigits negative significand exponent) passExponentIf := by
  rw [passExponentIf_eq]
  refine .bind fun x => ?_
  split
  · exact exponentPart
  · exact exponentPart
  · next notSmall notCapital =>
    rw [if_neg (not_or.mpr ⟨notSmall, notCapital⟩)]
    exact scaled

/-- Passes over a fraction, its point being next, and what follows it. -/
def passFraction : Reader Unit := do
  advance
  if (← Reader.digits (← left)) = 0 then Reader.failAhead .badNumber
  passExponentIf

theorem passAfterInteger_eq : passAfterInteger = look >>= fun x =>
    if x = some '.' then passFraction else passExponentIf := by
  refine bind_congr fun x => ?_
  split
  · rfl
  · next noPoint => exact (if_neg noPoint).symm

theorem passAfterInteger_look : passAfterInteger = look >>= fun x =>
    if x = some '.' then passFraction else if x = some 'e' ∨ x = some 'E' then passExponent else Pure.pure () := by
  funext c
  obtain ⟨x, looked⟩ : ∃ x, look c = .ok (x, c) := ⟨_, rfl⟩
  rw [passAfterInteger_eq, bind_run looked, bind_run looked]
  by_cases point : x = some '.'
  · rw [if_pos point, if_pos point]
  · rw [if_neg point, if_neg point, passExponentIf_eq, bind_run looked]

theorem fractionPart : Follows (fractionPart negative significand exponent) passFraction := by
  refine .bind fun _ => .digitsUpTo fun (n, count) k zero => .look (fun x m digit here => ?_) fun x noDigit _ => ?_
  · have some : k ≠ 0 := fun none => nomatch here none
    simp only [digit, if_neg some]
    exact .digits fun _ => afterDigits
  · simp only [noDigit]
    split
    · exact of_fails fun _ _ h => nomatch h
    · next counted =>
      have some : k ≠ 0 := fun none => counted (zero none)
      simp only [if_neg some]
      exact afterDigits

theorem afterInteger {n : Nat} : Follows (afterInteger negative n) passAfterInteger := by
  rw [passAfterInteger_look]
  refine .bind fun x => ?_
  split
  · exact fractionPart
  · exact exponentPart
  · exact exponentPart
  · next noPoint notSmall notCapital =>
    rw [if_neg noPoint, if_neg (not_or.mpr ⟨notSmall, notCapital⟩)]
    exact whole

theorem longInteger : BehindDigits (fun _ => True) (longInteger negative significand) passAfterInteger := by
  rw [passAfterInteger_eq]
  refine .digits fun dropped => .bind fun x => ?_
  split
  · exact fractionPart
  · next noPoint =>
    rw [if_neg noPoint]
    exact afterDigits

theorem numeral : Follows (numeral negative) passNumeral := by
  refine .bind fun first => ?_
  rcases digit? first with _ | _ | d
  · dsimp only
    split
    · exact .fail
    · exact .fail
  · refine .bind fun x => ?_
    cases digit? x with
    | none => exact afterInteger
    | some n => exact of_fails fun _ _ h => nomatch h
  · refine .digitsUpTo fun (n, count) k _ => .look (fun x m digit _ => ?_) fun x noDigit _ => ?_
    · simp only [digit]
      exact fun c y c' _ read => longInteger c y c' True.intro read
    · simp only [noDigit]
      exact afterInteger

end Follows

theorem passNumeral_of_numeral {negative : Bool} {n : Numeral} (read : numeral negative c = .ok (n, c')) :
    passNumeral c = .ok ((), c') ∧ c'.rest.length ≤ c.advance.rest.length :=
  ⟨Follows.numeral c n c' read, length_of_numeral read⟩

end ChannelFeed.Json.Reader
