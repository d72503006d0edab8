import ChannelFeed.Proofs.Json.Numbers

/-!
# Doubles in front of something else

Not every double is read back from its text. One that is, when it is read alone, is also read back in front
of anything that no numeral goes on with: the reader of numerals does not see what follows.
-/

namespace ChannelFeed

namespace Json.Reader

variable {α β : Type} {P Q : List UInt8 → Prop} {reader : Reader α}

/-- What the reader makes of a text like this one, and what it leaves of it, stays the same when something
follows that no numeral goes on with. -/
def Stable (P : List UInt8 → Prop) (reader : Reader α) : Prop :=
  ∀ p text x p' left, P text → reader ⟨p, text⟩ = .ok (x, ⟨p', left⟩) →
    left <:+ text ∧ ∀ after, Ends after → Reads reader (text ++ after) x (left ++ after)

/-! ## Digits -/

variable {b : UInt8} {text : List UInt8} {p : Position} {bound d limit n : Nat}

theorem digits_stop (stops : digit? (text.head?.map Char.ofUInt8) = none) :
    digits bound ⟨p, text⟩ = .ok (0, ⟨p, text⟩) := by
  cases bound with
  | zero => rfl
  | succ bound =>
    refine (bind_run rfl).trans ?_
    rw [stops]
    rfl

theorem digits_go (known : digit? (some (Char.ofUInt8 b)) = some d) :
    digits (bound + 1) ⟨p, b :: text⟩ = (do return (← digits bound) + 1 : Reader Nat) ⟨p.after b, text⟩ := by
  refine (bind_run rfl).trans ?_
  rw [List.head?_cons, Option.map_some, known]
  rfl

theorem digitsUpTo_stop (stops : digit? (text.head?.map Char.ofUInt8) = none) :
    digitsUpTo limit bound n ⟨p, text⟩ = .ok ((n, 0), ⟨p, text⟩) := by
  cases bound with
  | zero => rfl
  | succ bound =>
    refine (bind_run rfl).trans ?_
    rw [stops]
    rfl

theorem digitsUpTo_go (known : digit? (some (Char.ofUInt8 b)) = some d) :
    digitsUpTo limit (bound + 1) n ⟨p, b :: text⟩ =
      if limit < n * 10 + d then .ok ((n, 0), ⟨p, b :: text⟩)
      else (do let (m, count) ← digitsUpTo limit bound (n * 10 + d); return (m, count + 1) : Reader (Nat × Nat))
        ⟨p.after b, text⟩ := by
  refine (bind_run rfl).trans ?_
  rw [List.head?_cons, Option.map_some, known]
  dsimp only
  split
  · rfl
  · rfl

theorem scaled_eq : scaled = fun negative significand exponent =>
    match Binary64.ofDecimal? negative significand exponent with
    | some x => pure (.double x)
    | none => fail .numberOutOfRange := rfl

theorem scaled_cases (negative : Bool) (significand : Nat) (exponent : Int) :
    (∃ x, scaled negative significand exponent = pure (.double x)) ∨
      scaled negative significand exponent = fail .numberOutOfRange := by
  rw [scaled_eq]
  -- Either holds whatever rounding is used; the one in use must not be computed here.
  generalize Binary64.ofDecimal? = round
  dsimp only
  cases round negative significand exponent with
  | some x => exact .inl ⟨x, rfl⟩
  | none => exact .inr rfl

namespace Stable

abbrev Always (reader : Reader α) : Prop := Stable (fun _ => True) reader

/-- Of any text that begins with this byte. -/
abbrev From (b : UInt8) (reader : Reader α) : Prop := Stable (·.head? = some b) reader

theorem mono (stable : Stable Q reader) (only : ∀ text, P text → Q text) : Stable P reader :=
  fun p text x p' left holds read => stable p text x p' left (only text holds) read

theorem pure {x : α} : Stable P (pure x : Reader α) := by
  rintro p text _ _ _ - ⟨⟩
  exact ⟨List.suffix_refl _, fun _ _ => Reads.pure⟩

theorem of_fails (fails : ∀ p text, P text → ∀ r, reader ⟨p, text⟩ ≠ .ok r) : Stable P reader :=
  fun p text _ _ _ holds read => absurd read (fails p text holds _)

theorem of_there (fails : ∀ p r, reader ⟨p, []⟩ ≠ .ok r) (there : Stable (· ≠ []) reader) : Stable P reader := by
  intro p text x p' left _ read
  cases text with
  | nil => exact absurd read (fails p _)
  | cons b text => exact there p (b :: text) x p' left (List.cons_ne_nil b text) read

theorem bind {first : Reader α} {next : α → Reader β} (one : Stable P first) (two : ∀ x, Always (next x)) :
    Stable P (first >>= next) := by
  intro p text y p'' last holds read
  obtain ⟨x, ⟨p', left⟩, known, read⟩ := bind_eq_ok.mp read
  obtain ⟨part, reads⟩ := one p text x p' left holds known
  obtain ⟨rest, goesOn⟩ := two x p' left y p'' last True.intro read
  exact ⟨rest.trans part, fun after ends => (reads after ends).bind (goesOn after ends)⟩

theorem advance {b : UInt8} : From b advance := by
  rintro p text _ _ _ begins read
  cases text with
  | nil => cases begins
  | cons b text =>
    cases read
    exact ⟨List.suffix_cons _ _, fun _ _ => Reads.advance⟩

/-- Looking at the next character: what follows must not be mistaken for one that makes a difference. -/
theorem look {next : Option Char → Reader α} (atEnd : Stable (· = []) (next none))
    (each : ∀ b, From b (next (some (Char.ofUInt8 b))))
    (same : ∀ c, digit? (some c) = none → c ≠ '.' → c ≠ 'e' → c ≠ 'E' → next (some c) = next none) :
    Stable P (Reader.look >>= next) := by
  intro p text x p' left holds read
  change next (text.head?.map Char.ofUInt8) ⟨p, text⟩ = _ at read
  cases text with
  | nil =>
    obtain ⟨part, reads⟩ := atEnd p [] x p' left rfl read
    refine ⟨part, fun after ends => Reads.look.bind ?_⟩
    have alike : next (after.head?.map Char.ofUInt8) = next none := by
      cases after with
      | nil => rfl
      | cons b after =>
        obtain ⟨noDigit, notPoint, notSmall, notBig⟩ := ends b rfl
        exact same _ noDigit notPoint notSmall notBig
    rw [List.nil_append, alike]
    exact reads after ends
  | cons b text =>
    obtain ⟨part, reads⟩ := each b p (b :: text) x p' left rfl read
    exact ⟨part, fun after ends => Reads.look.bind (reads after ends)⟩

theorem look_there {next : Option Char → Reader α} (each : ∀ b, From b (next (some (Char.ofUInt8 b)))) :
    Stable (· ≠ []) (Reader.look >>= next) := by
  intro p text x p' left holds read
  cases text with
  | nil => exact absurd rfl holds
  | cons b text =>
    obtain ⟨part, reads⟩ := each b p (b :: text) x p' left rfl read
    exact ⟨part, fun after ends => Reads.look.bind (reads after ends)⟩

theorem next {next : Option Char → Reader α} (fails : ∀ p r, next none ⟨p, []⟩ ≠ .ok r)
    (each : ∀ c, Always (next (some c))) : Stable P (Reader.next >>= next) := by
  intro p text x p' left holds read
  cases text with
  | nil => exact absurd read (fails p _)
  | cons b text =>
    obtain ⟨part, reads⟩ := each (Char.ofUInt8 b) (p.after b) text x p' left True.intro read
    exact ⟨part.trans (List.suffix_cons _ _), fun after ends => Reads.next.bind (reads after ends)⟩

/-! ## The parts of a numeral -/

theorem of_bounded {loop : Nat → Reader α}
    (step : ∀ (text : List UInt8) (bound : Nat) (p p' : Position) (x : α) (left : List UInt8), text.length ≤ bound →
      loop bound ⟨p, text⟩ = .ok (x, ⟨p', left⟩) → left <:+ text ∧ ∀ after, Ends after →
        ∀ bound, (text ++ after).length ≤ bound → Reads (loop bound) (text ++ after) x (left ++ after)) :
    Stable P (Reader.left >>= loop) := by
  intro p text x p' left _ read
  obtain ⟨part, reads⟩ := step text text.length p p' x left (Nat.le_refl _) read
  exact ⟨part, fun after ends => Reads.left.bind (reads after ends _ (Nat.le_refl _))⟩

theorem digits_step (text : List UInt8) (bound : Nat) (p p' : Position) (n : Nat) (left : List UInt8)
    (enough : text.length ≤ bound) (read : Reader.digits bound ⟨p, text⟩ = .ok (n, ⟨p', left⟩)) :
    left <:+ text ∧ ∀ after, Ends after → ∀ bound, (text ++ after).length ≤ bound →
      Reads (Reader.digits bound) (text ++ after) n (left ++ after) := by
  induction text generalizing bound p n with
  | nil =>
    cases (digits_stop rfl).symm.trans read
    exact ⟨List.suffix_refl _, fun after ends bound _ p => ⟨p, digits_stop ends.head⟩⟩
  | cons b text ih =>
    cases known : digit? (some (Char.ofUInt8 b)) with
    | none =>
      have stops (rest : List UInt8) : digit? ((b :: rest).head?.map Char.ofUInt8) = none := known
      cases (digits_stop (stops text)).symm.trans read
      exact ⟨List.suffix_refl _, fun after _ bound _ p => ⟨p, digits_stop (stops _)⟩⟩
    | some d =>
      cases bound with
      | zero => cases enough
      | succ bound =>
        rw [digits_go known] at read
        obtain ⟨k, c, counted, same⟩ := bind_eq_ok.mp read
        cases same
        obtain ⟨part, reads⟩ := ih bound _ k (Nat.le_of_succ_le_succ enough) counted
        refine ⟨part.trans (List.suffix_cons _ _), fun after ends bound enough p => ?_⟩
        cases bound with
        | zero => cases enough
        | succ bound =>
          have goesOn : Reads (do return (← Reader.digits bound) + 1 : Reader Nat) (text ++ after) (k + 1)
              (left ++ after) := (reads after ends bound (Nat.le_of_succ_le_succ enough)).bind Reads.pure
          rw [List.cons_append, digits_go known]
          exact goesOn _

theorem digitsUpTo_step (limit : Nat) (text : List UInt8) (n bound : Nat) (p p' : Position) (r : Nat × Nat)
    (left : List UInt8) (enough : text.length ≤ bound)
    (read : Reader.digitsUpTo limit bound n ⟨p, text⟩ = .ok (r, ⟨p', left⟩)) :
    left <:+ text ∧ ∀ after, Ends after → ∀ bound, (text ++ after).length ≤ bound →
      Reads (Reader.digitsUpTo limit bound n) (text ++ after) r (left ++ after) := by
  induction text generalizing bound n p r with
  | nil =>
    cases (digitsUpTo_stop rfl).symm.trans read
    exact ⟨List.suffix_refl _, fun after ends bound _ p => ⟨p, digitsUpTo_stop ends.head⟩⟩
  | cons b text ih =>
    cases known : digit? (some (Char.ofUInt8 b)) with
    | none =>
      have stops (rest : List UInt8) : digit? ((b :: rest).head?.map Char.ofUInt8) = none := known
      cases (digitsUpTo_stop (stops text)).symm.trans read
      exact ⟨List.suffix_refl _, fun after _ bound _ p => ⟨p, digitsUpTo_stop (stops _)⟩⟩
    | some d =>
      cases bound with
      | zero => cases enough
      | succ bound =>
        rw [digitsUpTo_go known] at read
        by_cases beyond : limit < n * 10 + d
        · rw [if_pos beyond] at read
          cases read
          refine ⟨List.suffix_refl _, fun after _ bound enough p => ?_⟩
          cases bound with
          | zero => cases enough
          | succ bound =>
            rw [List.cons_append, digitsUpTo_go known, if_pos beyond]
            exact ⟨p, rfl⟩
        · rw [if_neg beyond] at read
          obtain ⟨⟨m, k⟩, c, counted, same⟩ := bind_eq_ok.mp read
          cases same
          obtain ⟨part, reads⟩ := ih _ bound _ (m, k) (Nat.le_of_succ_le_succ enough) counted
          refine ⟨part.trans (List.suffix_cons _ _), fun after ends bound enough p => ?_⟩
          cases bound with
          | zero => cases enough
          | succ bound =>
            have goesOn : Reads (do
                let (m, count) ← Reader.digitsUpTo limit bound (n * 10 + d)
                return (m, count + 1)) (text ++ after) (m, k + 1) (left ++ after) :=
              (reads after ends bound (Nat.le_of_succ_le_succ enough)).bind Reads.pure
            rw [List.cons_append, digitsUpTo_go known, if_neg beyond]
            exact goesOn _

theorem digits : Always (Reader.left >>= Reader.digits) := of_bounded digits_step

theorem fails {cause : Cause} : Stable P (fail cause : Reader α) := of_fails fun _ _ _ _ h => nomatch h

theorem scaled {negative : Bool} {significand : Nat} {exponent : Int} :
    Stable P (Reader.scaled negative significand exponent) := by
  rcases scaled_cases negative significand exponent with ⟨x, is⟩ | is
  · rw [is]
    exact .pure
  · rw [is]
    exact .fails

theorem whole {negative : Bool} {n : Nat} : Stable P (Reader.whole negative n) := by
  unfold Reader.whole
  split
  · split
    · exact .pure
    · exact .scaled
  · split
    · exact .pure
    · exact .scaled

theorem digitsUpTo {limit n : Nat} : Always (Reader.left >>= fun bound => Reader.digitsUpTo limit bound n) :=
  of_bounded fun text bound p p' r left => digitsUpTo_step limit text n bound p p' r left

theorem after_digits {next : Nat → Reader α} (rest : ∀ n, Always (next n)) :
    Always (Reader.left >>= fun bound => Reader.digits bound >>= next) := by
  rw [← bind_assoc]
  exact digits.bind rest

theorem after_digitsUpTo {limit n : Nat} {next : Nat × Nat → Reader α} (rest : ∀ r, Always (next r)) :
    Always (Reader.left >>= fun bound => Reader.digitsUpTo limit bound n >>= next) := by
  rw [← bind_assoc]
  exact digitsUpTo.bind rest

variable {negative : Bool} {significand : Nat} {exponent : Int} {b : UInt8}

theorem exponentPart : From b (Reader.exponentPart negative significand exponent) := by
  unfold Reader.exponentPart
  refine advance.bind fun _ => of_there (fun _ _ h => nomatch h) (look_there fun b => ?_)
  extract_lets zero afterSign
  have rest (positive : Bool) : Always (afterSign positive) := by
    refine .next (fun _ _ h => nomatch h) fun c => ?_
    split
    · exact .fails
    · refine after_digitsUpTo fun (n, _) => .look .scaled (fun b => ?_) fun c noDigit _ _ _ => ?_
      · split
        · exact .scaled
        · refine advance.bind fun _ => ?_
          split
          · exact .fails
          · exact after_digits fun _ => .pure
      · rw [noDigit]
        rfl
  split
  · exact advance.bind fun _ => Stable.pure.bind rest
  · exact advance.bind fun _ => Stable.pure.bind rest
  · exact Stable.pure.bind rest

theorem afterDigits : Always (Reader.afterDigits negative significand exponent) := by
  refine .look .scaled (fun b => ?_) ?_
  · split
    · exact .exponentPart
    · exact .exponentPart
    · exact .scaled
  · intro c _ _ notSmall notBig
    dsimp only
    split
    · next is => exact absurd (Option.some.inj is) notSmall
    · next is => exact absurd (Option.some.inj is) notBig
    · rfl

theorem fractionPart : From b (Reader.fractionPart negative significand exponent) := by
  refine advance.bind fun _ => after_digitsUpTo fun (n, count) => ?_
  have ended : Always (if count = 0 then (do failAhead (if (← Reader.look).isNone then .endInValue else .badNumber))
      else Reader.afterDigits negative n (exponent - count)) := by
    split
    · exact .of_fails fun _ _ _ _ h => nomatch h
    · exact .afterDigits
  refine .look (ended.mono fun _ _ => True.intro) (fun b => ?_) fun c noDigit _ _ _ => ?_
  · split
    · exact (after_digits fun _ => .afterDigits).mono fun _ _ => True.intro
    · exact ended.mono fun _ _ => True.intro
  · rw [noDigit]
    rfl

theorem longInteger : Always (Reader.longInteger negative significand) := by
  refine after_digits fun dropped => .look (afterDigits.mono fun _ _ => True.intro) (fun b => ?_) ?_
  · split
    · exact .fractionPart
    · exact afterDigits.mono fun _ _ => True.intro
  · intro c _ notPoint _ _
    dsimp only
    split
    · next is => exact absurd (Option.some.inj is) notPoint
    · rfl

theorem afterInteger {n : Nat} : Always (Reader.afterInteger negative n) := by
  refine .look .whole (fun b => ?_) ?_
  · split
    · exact .fractionPart
    · exact .exponentPart
    · exact .exponentPart
    · exact .whole
  · intro c _ notPoint notSmall notBig
    dsimp only
    split
    · next is => exact absurd (Option.some.inj is) notPoint
    · next is => exact absurd (Option.some.inj is) notSmall
    · next is => exact absurd (Option.some.inj is) notBig
    · rfl

theorem numeral : Always (Reader.numeral negative) := by
  refine .next (fun _ _ h => nomatch h) fun c => ?_
  split
  · exact .fails
  · refine .look (afterInteger.mono fun _ _ => True.intro) (fun b => ?_) fun c noDigit _ _ _ => ?_
    · split
      · exact .of_fails fun _ _ _ _ h => nomatch h
      · exact afterInteger.mono fun _ _ => True.intro
    · rw [noDigit]
      rfl
  · refine after_digitsUpTo fun (n, _) => .look (afterInteger.mono fun _ _ => True.intro) (fun b => ?_)
      fun c noDigit _ _ _ => ?_
    · split
      · exact longInteger.mono fun _ _ => True.intro
      · exact afterInteger.mono fun _ _ => True.intro
    · rw [noDigit]
      rfl

end Stable

end Json.Reader

/-! ## The text of a double -/

namespace Binary64

/-- The characters that doubles are written with. -/
def IsWritten (c : Char) : Prop := c.isDigit = true ∨ c = '.' ∨ c = '-' ∨ c = '+' ∨ c = 'e'

instance (c : Char) : Decidable (IsWritten c) :=
  inferInstanceAs (Decidable (c.isDigit = true ∨ c = '.' ∨ c = '-' ∨ c = '+' ∨ c = 'e'))

theorem isWritten_toDigits (n : Nat) : ∀ c ∈ Nat.toDigits 10 n, IsWritten c :=
  fun _ there => .inl (Nat.isDigit_of_mem_toDigits (by decide) (by decide) there)

theorem isWritten_zeros (n : Nat) : ∀ c ∈ List.replicate n '0', IsWritten c := by
  intro c there
  rw [List.eq_of_mem_replicate there]
  exact .inl rfl

theorem isWritten_decimal (d : Decimal) : ∀ c ∈ d.text, IsWritten c := by
  have digits := isWritten_toDigits d.digits
  have point : IsWritten '.' := .inr (.inl rfl)
  have zero : IsWritten '0' := .inl rfl
  have exponentMark : IsWritten 'e' := .inr (.inr (.inr (.inr rfl)))
  have taken (n : Nat) : ∀ c ∈ (Nat.toDigits 10 d.digits).take n, IsWritten c :=
    fun c there => digits c (List.mem_of_mem_take there)
  have dropped (n : Nat) : ∀ c ∈ (Nat.toDigits 10 d.digits).drop n, IsWritten c :=
    fun c there => digits c (List.mem_of_mem_drop there)
  unfold Decimal.text
  dsimp only
  split
  · refine List.forall_mem_append.mpr ⟨List.forall_mem_append.mpr ⟨taken 1, ?_⟩, ?_⟩
    · split
      · exact fun c none => absurd none List.not_mem_nil
      · next rest _ => exact List.forall_mem_cons.mpr ⟨point, dropped 1⟩
    · refine List.forall_mem_cons.mpr ⟨exponentMark, List.forall_mem_cons.mpr ⟨?_, isWritten_toDigits _⟩⟩
      split
      · exact .inr (.inr (.inl rfl))
      · exact .inr (.inr (.inr (.inl rfl)))
  split
  · refine List.forall_mem_append.mpr ⟨List.forall_mem_append.mpr ⟨digits, isWritten_zeros _⟩, ?_⟩
    exact List.forall_mem_cons.mpr ⟨point, List.forall_mem_singleton.mpr zero⟩
  split
  · exact List.forall_mem_append.mpr ⟨taken _, List.forall_mem_cons.mpr ⟨point, dropped _⟩⟩
  · refine List.forall_mem_cons.mpr ⟨zero, List.forall_mem_cons.mpr ⟨point, ?_⟩⟩
    exact List.forall_mem_append.mpr ⟨isWritten_zeros _, digits⟩

theorem isWritten_text (x : Binary64) : ∀ c ∈ x.text, IsWritten c := by
  have magnitude : ∀ c ∈ if x.isZero then ['0', '.', '0'] else x.shortest.text, IsWritten c := by
    split
    · exact List.forall_mem_cons.mpr ⟨.inl rfl, List.forall_mem_cons.mpr
        ⟨.inr (.inl rfl), List.forall_mem_singleton.mpr (.inl rfl)⟩⟩
    · exact isWritten_decimal _
  unfold text
  dsimp only
  split
  · exact List.forall_mem_cons.mpr ⟨.inr (.inr (.inl rfl)), magnitude⟩
  · exact magnitude

theorem text_ne_nil (x : Binary64) : x.text ≠ [] := by
  have magnitude : (if x.isZero then ['0', '.', '0'] else x.shortest.text) ≠ [] := by
    split
    · exact List.cons_ne_nil _ _
    · unfold Decimal.text
      dsimp only
      split
      · exact List.append_ne_nil_of_right_ne_nil _ (List.cons_ne_nil _ _)
      split
      · exact List.append_ne_nil_of_right_ne_nil _ (List.cons_ne_nil _ _)
      split
      · exact List.append_ne_nil_of_right_ne_nil _ (List.cons_ne_nil _ _)
      · exact List.cons_ne_nil _ _
  unfold text
  dsimp only
  split
  · exact List.cons_ne_nil _ _
  · exact magnitude

end Binary64

namespace Json.Reader

variable {α : Type} {c : Char} {cs : List Char} {after : List UInt8}

theorem visible_of_isWritten (written : Binary64.IsWritten c) : isBlank (UInt8.ofNat c.toNat) = false := by
  rcases written with digit | rfl | rfl | rfl | rfl
  · exact visible_of_isDigit digit
  · rfl
  · rfl
  · rfl
  · rfl

theorem small_of_isWritten (written : Binary64.IsWritten c) : c.toNat < 0x80 := by
  rcases written with digit | rfl | rfl | rfl | rfl
  · exact (digit?_of_isDigit digit).2
  · decide
  · decide
  · decide
  · decide

theorem visible_encode (written : ∀ c ∈ cs, Binary64.IsWritten c) : ∀ b ∈ Utf8.encode cs, isBlank b = false := by
  induction cs with
  | nil => exact fun b none => absurd none List.not_mem_nil
  | cons c cs ih =>
    obtain ⟨first, written⟩ := List.forall_mem_cons.mp written
    rw [Utf8.encode_ascii (small_of_isWritten first)]
    exact List.forall_mem_cons.mpr ⟨visible_of_isWritten first, ih written⟩

/-- A text without blanks that was read with nothing but blanks left is read in front of something else. -/
theorem Stable.alone {reader : Reader α} (stable : Stable.Always reader) {text left : List UInt8} {x : α}
    {p p' : Position} (visible : ∀ b ∈ text, isBlank b = false) (blank : Blank left)
    (read : reader ⟨p, text⟩ = .ok (x, ⟨p', left⟩)) (ends : Ends after) : Reads reader (text ++ after) x after := by
  obtain ⟨part, reads⟩ := stable p text x p' left True.intro read
  cases left with
  | nil => exact reads after ends
  | cons b left =>
    obtain ⟨isBlank, -⟩ := List.forall_mem_cons.mp blank
    rw [visible b (part.subset List.mem_cons_self)] at isBlank
    cases isBlank

/-- A double that is read back from its text alone is read back in front of anything that no numeral goes
on with. -/
theorem Reads.double {inner : Option (Reader Json)} {x : Binary64}
    (back : Json.read (Utf8.encode x.text) = .ok (.double x)) (ends : Ends after) :
    Reads (valueWith inner) (Utf8.encode x.text ++ after) (.double x) after := by
  have written := x.isWritten_text
  obtain ⟨q, left, read, blank⟩ := read_of_whole? back
  have numeral (negative : Bool) : Stable.Always (do return (← Reader.numeral negative).json) :=
    Stable.numeral.bind fun _ => .pure
  cases text : x.text with
  | nil =>
    rw [text] at read
    cases read
  | cons c cs =>
    rw [text] at read written
    obtain ⟨first, others⟩ := List.forall_mem_cons.mp written
    rw [Utf8.encode_ascii (small_of_isWritten first)] at read ⊢
    change valueWith (some (value 126)) _ = _ at read
    rcases first with digit | rfl | rfl | rfl | rfl
    · rw [valueWith_digit digit, ← Utf8.encode_ascii (digit?_of_isDigit digit).2] at read
      intro p
      rw [List.cons_append, valueWith_digit digit]
      rw [← List.cons_append, ← Utf8.encode_ascii (digit?_of_isDigit digit).2]
      exact (numeral false).alone (visible_encode written) blank read ends p
    · cases read
    · intro p
      exact (numeral true).alone (visible_encode others) blank read ends (p.after 45)
    · cases read
    · cases read

end Json.Reader

end ChannelFeed
