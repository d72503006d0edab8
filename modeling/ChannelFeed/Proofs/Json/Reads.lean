import ChannelFeed.Proofs.Text.Utf8
import ChannelFeed.Json.Typed

/-!
# Reading one thing after another

What a reader makes of a text it accepts, and what it leaves. Faults tell the place where they were noticed;
where nothing is at fault the place plays no part.
-/

namespace ChannelFeed

theorem bind_eq_ok {ε α β : Type} {first : Except ε α} {next : α → Except ε β} {y : β} :
    (first >>= next) = .ok y ↔ ∃ x, first = .ok x ∧ next x = .ok y := by
  cases first with
  | error e => simp [bind, Except.bind]
  | ok x => simp [bind, Except.bind]

namespace Json.Reader

variable {α β : Type} {x : α} {y : β} {b : UInt8} {c : Char} {before between after gap : List UInt8}

theorem bind_eq_ok {first : Reader α} {next : α → Reader β} {c : Cursor} {r : β × Cursor} :
    (first >>= next) c = .ok r ↔ ∃ x d, first c = .ok (x, d) ∧ next x d = .ok r :=
  ChannelFeed.bind_eq_ok.trans ⟨fun ⟨⟨x, d⟩, one, two⟩ => ⟨x, d, one, two⟩, fun ⟨x, d, one, two⟩ => ⟨(x, d), one, two⟩⟩

theorem bind_run {first : Reader α} {next : α → Reader β} {c d : Cursor} (run : first c = .ok (x, d)) :
    (first >>= next) c = next x d := by
  change (first c >>= fun r => next r.1 r.2) = _
  rw [run]
  rfl

/-- From a text that begins like `before` the reader makes `x` and leaves `after`. -/
def Reads (reader : Reader α) (before : List UInt8) (x : α) (after : List UInt8) : Prop :=
  ∀ p, ∃ p', reader ⟨p, before⟩ = .ok (x, ⟨p', after⟩)

theorem Reads.pure : Reads (pure x) before x before := fun p => ⟨p, rfl⟩

theorem Reads.bind {first : Reader α} {next : α → Reader β} (one : Reads first before x between)
    (two : Reads (next x) between y after) : Reads (first >>= next) before y after := by
  intro p
  obtain ⟨q, read⟩ := one p
  obtain ⟨r, rest⟩ := two q
  exact ⟨r, bind_eq_ok.mpr ⟨x, _, read, rest⟩⟩

theorem Reads.advance : Reads advance (b :: after) () after := fun p => ⟨p.after b, rfl⟩

theorem Reads.look : Reads look before (before.head?.map Char.ofUInt8) before := fun p => ⟨p, rfl⟩

theorem Reads.next : Reads next (b :: after) (some (Char.ofUInt8 b)) after := fun p => ⟨p.after b, rfl⟩

theorem Reads.left : Reads left before before.length before := fun p => ⟨p, rfl⟩

def Blank (text : List UInt8) : Prop := ∀ b ∈ text, isBlank b = true

theorem Blank.nil : Blank [] := fun _ none => absurd none List.not_mem_nil

theorem Reads.blanks (blank : Blank gap) (visible : ∀ b ∈ after.head?, isBlank b = false) :
    Reads blanks (gap ++ after) () after := by
  intro p
  induction gap generalizing p with
  | nil =>
    cases after with
    | nil => exact ⟨p, rfl⟩
    | cons b after =>
      refine ⟨p, congrArg (fun c => Except.ok ((), c)) ?_⟩
      rw [List.nil_append, blanksFrom, if_neg (by rw [visible b rfl]; exact Bool.false_ne_true)]
  | cons b gap ih =>
    obtain ⟨isBlank, blank⟩ := List.forall_mem_cons.mp blank
    obtain ⟨p', read⟩ := ih blank (p.after b)
    refine ⟨p', Eq.trans (congrArg (fun c => Except.ok ((), c)) ?_) read⟩
    rw [List.cons_append, blanksFrom, if_pos isBlank]

theorem Reads.token (blank : Blank gap) (visible : isBlank b = false) (is : Char.ofUInt8 b = c) :
    Reads token (gap ++ b :: after) (some c) (b :: after) := by
  refine (Reads.blanks blank ?_).bind ?_
  · rintro _ ⟨⟩
    exact visible
  · rw [← is]
    exact Reads.look

theorem token_eq {p : Position} (visible : isBlank b = false) :
    Reader.token ⟨p, b :: after⟩ = .ok (some (Char.ofUInt8 b), ⟨p, b :: after⟩) := by
  have stays : blanksFrom p (b :: after) = ⟨p, b :: after⟩ := by
    rw [blanksFrom, visible]
    rfl
  change (Reader.look (blanksFrom p (b :: after)) : Except Fault _) = _
  rw [stays]
  rfl

theorem token_blank {p : Position} (blank : isBlank b = true) :
    token ⟨p, b :: after⟩ = token ⟨p.after b, after⟩ := by
  change (Reader.look (blanksFrom p (b :: after)) : Except Fault _) = Reader.look (blanksFrom (p.after b) after)
  rw [blanksFrom, if_pos blank]

theorem Reads.endOfText (blank : Blank gap) : Reads endOfText gap () [] := by
  have passed : Reads Reader.blanks (gap ++ []) () [] := Reads.blanks blank (by rintro b ⟨⟩)
  rw [List.append_nil] at passed
  have none : Reads Reader.token gap none [] := passed.bind Reads.look
  exact none.bind Reads.pure

theorem Reads.whole {reader : Reader α} (read : Reads reader before x gap) (blank : Blank gap) :
    whole? reader before = .ok x := by
  have all : Reads (do let x ← reader; Reader.endOfText; return x : Reader α) before x [] :=
    read.bind ((Reads.endOfText blank).bind Reads.pure)
  obtain ⟨p, ends⟩ := all .start
  unfold whole? Cursor.start
  rw [ends]
  rfl

theorem blank_of_endOfText {left : List UInt8} {p : Position} {r : Unit × Cursor}
    (ended : endOfText ⟨p, left⟩ = .ok r) : Blank left := by
  induction left generalizing p with
  | nil => exact Blank.nil
  | cons b left ih =>
    obtain ⟨next, d, known, ended⟩ := bind_eq_ok.mp ended
    cases visible : isBlank b with
    | true =>
      rw [token_blank visible] at known
      exact List.forall_mem_cons.mpr ⟨visible, ih (bind_eq_ok.mpr ⟨next, d, known, ended⟩)⟩
    | false =>
      rw [token_eq visible] at known
      cases known
      cases ended

/-- A text that is read as a whole is read from its beginning, and leaves at most blanks. -/
theorem read_of_whole? {reader : Reader α} {text : List UInt8} {x : α} (read : whole? reader text = .ok x) :
    ∃ p left, reader ⟨.start, text⟩ = .ok (x, ⟨p, left⟩) ∧ Blank left := by
  obtain ⟨⟨_, _⟩, all, same⟩ := ChannelFeed.bind_eq_ok.mp read
  cases same
  obtain ⟨_, ⟨p, left⟩, known, all⟩ := bind_eq_ok.mp all
  obtain ⟨_, _, ended, all⟩ := bind_eq_ok.mp all
  cases all
  exact ⟨p, left, known, blank_of_endOfText ended⟩

theorem Reads.word (letters : List Char) (plain : letters.all (·.toNat < 0x80) = true) :
    Reads (word letters) (Utf8.encode letters ++ after) () after := by
  induction letters with
  | nil => exact Reads.pure
  | cons letter letters ih =>
    rw [List.all_cons, Bool.and_eq_true, decide_eq_true_iff] at plain
    obtain ⟨small, plain⟩ := plain
    rw [Utf8.encode_ascii small, List.cons_append]
    refine Reads.next.bind ?_
    rw [Utf8.ofUInt8_ofNat small]
    dsimp only
    rw [if_pos rfl]
    exact ih plain

theorem Reads.itemAhead (blank : Blank gap) (visible : isBlank b = false) (other : Char.ofUInt8 b ≠ ']') :
    Reads (anotherItem true) (gap ++ b :: after) true (b :: after) := by
  refine (Reads.token blank visible rfl).bind ?_
  split
  · contradiction
  · next is => exact absurd (Option.some.inj is) other
  · exact Reads.pure

theorem Reads.noItem (first : Bool) (blank : Blank gap) :
    Reads (anotherItem first) (gap ++ 93 :: after) false (93 :: after) :=
  (Reads.token blank rfl (show _ = ']' by decide)).bind Reads.pure

theorem Reads.nextItem (blank : Blank gap) (visible : isBlank b = false) (other : Char.ofUInt8 b ≠ ']') :
    Reads (anotherItem false) (44 :: (gap ++ b :: after)) true (b :: after) := by
  refine (Reads.token Blank.nil rfl (show _ = ',' by decide)).bind ?_
  refine Reads.advance.bind ((Reads.token blank visible rfl).bind ?_)
  split
  · contradiction
  · next is => exact absurd (Option.some.inj is) other
  · exact Reads.pure

theorem Reads.endOfArray (blank : Blank gap) : Reads endOfArray (gap ++ 93 :: after) () after :=
  (Reads.token blank rfl (show _ = ']' by decide)).bind Reads.advance

theorem Reads.memberAhead (blank : Blank gap) : Reads (anotherMember true) (gap ++ 34 :: after) true (34 :: after) :=
  (Reads.token blank rfl (show _ = '"' by decide)).bind Reads.pure

theorem Reads.noMember (first : Bool) (blank : Blank gap) :
    Reads (anotherMember first) (gap ++ 125 :: after) false (125 :: after) :=
  (Reads.token blank rfl (show _ = '\x7d' by decide)).bind Reads.pure

theorem Reads.nextMember (blank : Blank gap) :
    Reads (anotherMember false) (44 :: (gap ++ 34 :: after)) true (34 :: after) := by
  refine (Reads.token Blank.nil rfl (show _ = ',' by decide)).bind ?_
  exact Reads.advance.bind ((Reads.token blank rfl (show _ = '"' by decide)).bind Reads.pure)

theorem Reads.colon (blank : Blank gap) : Reads colon (gap ++ 58 :: after) () after :=
  (Reads.token blank rfl (show _ = ':' by decide)).bind Reads.advance

theorem Reads.endOfObject (blank : Blank gap) : Reads endOfObject (gap ++ 125 :: after) () after :=
  (Reads.token blank rfl (show _ = '\x7d' by decide)).bind Reads.advance

end Json.Reader

end ChannelFeed
