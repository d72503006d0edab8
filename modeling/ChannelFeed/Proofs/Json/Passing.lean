import ChannelFeed.Proofs.Json.PassedScalars
import ChannelFeed.Proofs.Json.Written

/-!
# Passing over values

Whatever can be read can be passed over, and both end at the same place. Reading follows the nesting of a value, while
passing over keeps the arrays and objects that are open as a list; to `resume` is what is left to do when a value has been
passed over inside of them.
-/

namespace ChannelFeed.Json.Reader

variable {α : Type} {c c' d e : Cursor} {next : Option Char} {opened outer : List Open} {bound : Nat}

theorem length_blanksFrom (p : Position) (text : List UInt8) : (blanksFrom p text).rest.length ≤ text.length := by
  induction text generalizing p with
  | nil => exact Nat.le_refl _
  | cons b text ih =>
    rw [blanksFrom]
    split
    · exact Nat.le_succ_of_le (ih _)
    · exact Nat.le_refl _

theorem token_eq_ok (looked : token c = .ok (next, d)) :
    d.rest.head?.map Char.ofUInt8 = next ∧ d.rest.length ≤ c.rest.length := by
  cases looked
  exact ⟨rfl, length_blanksFrom _ _⟩

theorem length_of_token {letter : Char} (looked : token c = .ok (some letter, d)) :
    d.advance.rest.length < c.rest.length := by
  obtain ⟨is, shorter⟩ := token_eq_ok looked
  have taken := length_advance is
  omega

/-- Goes on behind a value or an opening: closes what ends there and passes over the values that are left. -/
def resume (bound : Nat) (afterValue : Bool) (opened : List Open) : Reader Unit := do
  match ← passClosings ((← left) + 1) afterValue opened with
  | [] => return
  | frames =>
    passKey frames
    passValues bound frames

theorem passValues_closed (run : passOpening c = .ok (none, d)) :
    passValues (bound + 1) opened c = resume bound true opened d := by
  rw [passValues, bind_run run]
  rfl

theorem passValues_open {frame : Open} (run : passOpening c = .ok (some frame, d)) :
    passValues (bound + 1) opened c = resume bound false (frame :: opened) d := by
  rw [passValues, bind_run run]
  rfl

theorem resume_nil {afterValue : Bool} : resume bound afterValue [] c = .ok ((), c) := by
  unfold resume passClosings
  rfl

/-- Readers that do the same at two places go on in the same way. -/
theorem bind_alike {β : Type} {first other : Reader α} {next : α → Reader β} (same : first c = other d) :
    (first >>= next) c = (other >>= next) d := by
  change (first c >>= fun r => next r.1 r.2) = (other d >>= fun r => next r.1 r.2)
  rw [same]

theorem passValues_token (looked : token c = .ok (next, d)) :
    passValues (bound + 1) opened d = passValues (bound + 1) opened c := by
  have same : token d = token c := (token_again looked).trans looked.symm
  have opening : passOpening d = passOpening c := bind_alike same
  rw [passValues]
  exact bind_alike opening

/-- Each opening that is closed takes a byte, so that there are enough as long as there are bytes. -/
theorem passClosings_bound {bound other : Nat} {afterValue : Bool} (enough : c.rest.length < bound)
    (also : c.rest.length < other) :
    passClosings bound afterValue opened c = passClosings other afterValue opened c := by
  induction opened generalizing bound other afterValue c with
  | nil =>
    unfold passClosings
    rfl
  | cons frame outer ih =>
    obtain ⟨bound, rfl⟩ : ∃ n, bound = n + 1 := ⟨bound - 1, by omega⟩
    obtain ⟨other, rfl⟩ : ∃ n, other = n + 1 := ⟨other - 1, by omega⟩
    obtain ⟨next, d, looked⟩ : ∃ next d, token c = .ok (next, d) := ⟨_, _, rfl⟩
    rw [passClosings, passClosings, bind_run looked, bind_run looked]
    split
    · rfl
    · rfl
    · have shorter := length_of_token looked
      exact ih (c := d.advance) (by omega) (by omega)
    · have shorter := length_of_token looked
      exact ih (c := d.advance) (by omega) (by omega)
    · rfl

theorem resume_run {afterValue : Bool} {frame : Open}
    (run : passClosings (c.rest.length + 1) afterValue opened c = .ok (frame :: outer, d)) :
    resume bound afterValue opened c = (do passKey (frame :: outer); passValues bound (frame :: outer) : Reader Unit) d :=
  (bind_run rfl).trans (bind_run run)

theorem resume_closed {afterValue : Bool} (shorter : d.rest.length < c.rest.length)
    (closes : passClosings (c.rest.length + 1) afterValue opened c = passClosings c.rest.length true outer d) :
    resume bound afterValue opened c = resume bound true outer d := by
  rw [passClosings_bound shorter (Nat.lt_succ_self _)] at closes
  unfold resume
  rw [bind_run (rfl : left c = _), bind_run (rfl : left d = _)]
  exact bind_alike closes

theorem resume_array_end {afterValue : Bool} (looked : token c = .ok (some ']', d)) :
    resume bound afterValue (.array :: outer) c = resume bound true outer d.advance := by
  refine resume_closed (length_of_token looked) ?_
  rw [passClosings, bind_run looked]
  rfl

theorem resume_object_end {afterValue : Bool} (looked : token c = .ok (some '\x7d', d)) :
    resume bound afterValue (.object :: outer) c = resume bound true outer d.advance := by
  refine resume_closed (length_of_token looked) ?_
  rw [passClosings, bind_run looked]
  rfl

theorem resume_comma {frame : Open} (looked : token c = .ok (some ',', d)) :
    resume bound true (frame :: outer) c =
      (do passKey (frame :: outer); passValues bound (frame :: outer) : Reader Unit) d.advance := by
  refine resume_run ?_
  rw [passClosings, bind_run looked]
  cases frame <;> rfl

/-- How another item is found in an array, or its end. -/
inductive NextItem (c : Cursor) : (first another : Bool) → Cursor → Prop
  | ends {first : Bool} {d : Cursor} (looked : token c = .ok (some ']', d)) : NextItem c first false d
  | begins {letter : Char} {d : Cursor} (looked : token c = .ok (some letter, d)) (other : letter ≠ ']') :
    NextItem c true true d
  | follows {letter : Char} {d e : Cursor} (looked : token c = .ok (some ',', d))
    (behind : token d.advance = .ok (some letter, e)) : NextItem c false true e

theorem nextItem {first another : Bool} (read : anotherItem first c = .ok (another, d)) :
    NextItem c first another d := by
  obtain ⟨next, e, looked, read⟩ := bind_eq_ok.mp read
  split at read
  · cases read
  · cases read
    exact .ends looked
  · next letter other =>
    split at read
    · next isFirst =>
      cases read
      subst isFirst
      exact .begins looked other
    · next notFirst =>
      split at read
      · next comma =>
        subst comma
        obtain ⟨_, f, moved, read⟩ := bind_eq_ok.mp read
        cases moved
        obtain ⟨next, g, behind, read⟩ := bind_eq_ok.mp read
        split at read
        · cases read
        · cases read
        · cases read
          obtain rfl : first = false := Bool.eq_false_iff.mpr notFirst
          exact .follows looked behind
      · cases read

theorem NextItem.shorter {first another : Bool} (next : NextItem c first another d) : d.rest.length ≤ c.rest.length := by
  cases next with
  | ends looked => exact (token_eq_ok looked).2
  | begins looked other => exact (token_eq_ok looked).2
  | follows looked behind =>
    have less := length_of_token looked
    have fewer := (token_eq_ok behind).2
    omega

/-- How another member is found in an object, or its end. -/
inductive NextMember (c : Cursor) : (first another : Bool) → Cursor → Prop
  | ends {first : Bool} {d : Cursor} (looked : token c = .ok (some '\x7d', d)) : NextMember c first false d
  | begins {d : Cursor} (looked : token c = .ok (some '"', d)) : NextMember c true true d
  | follows {d e : Cursor} (looked : token c = .ok (some ',', d)) (behind : token d.advance = .ok (some '"', e)) :
    NextMember c false true e

theorem nextMember {first another : Bool} (read : anotherMember first c = .ok (another, d)) :
    NextMember c first another d := by
  obtain ⟨next, e, looked, read⟩ := bind_eq_ok.mp read
  split at read
  · cases read
  · cases read
    exact .ends looked
  · next letter other =>
    split at read
    · next isFirst =>
      split at read
      · next quote =>
        cases read
        subst isFirst quote
        exact .begins looked
      · cases read
    · next notFirst =>
      split at read
      · next comma =>
        subst comma
        obtain ⟨_, f, moved, read⟩ := bind_eq_ok.mp read
        cases moved
        obtain ⟨next, g, behind, read⟩ := bind_eq_ok.mp read
        split at read
        · cases read
        · cases read
          obtain rfl : first = false := Bool.eq_false_iff.mpr notFirst
          exact .follows looked behind
        · cases read
        · cases read
      · cases read

theorem NextMember.shorter {first another : Bool} (next : NextMember c first another d) :
    d.rest.length ≤ c.rest.length := by
  cases next with
  | ends looked => exact (token_eq_ok looked).2
  | begins looked => exact (token_eq_ok looked).2
  | follows looked behind =>
    have less := length_of_token looked
    have fewer := (token_eq_ok behind).2
    omega

theorem NextMember.quote {first : Bool} (next : NextMember c first true d) : token d = .ok (some '"', d) := by
  cases next with
  | begins looked => exact token_again looked
  | follows _ behind => exact token_again behind

theorem passClosings_begins {frame : Open} {letter : Char} (outer : List Open) (looked : token c = .ok (some letter, d))
    (noArrayEnd : frame = .array → letter ≠ ']') (noObjectEnd : frame = .object → letter ≠ '\x7d') :
    passClosings (bound + 1) false (frame :: outer) c = .ok (frame :: outer, d) := by
  rw [passClosings, bind_run looked]
  simp only [Bool.false_eq_true, if_false]
  rfl

theorem resume_item {first : Bool} (next : NextItem c first true d) :
    resume (bound + 1) (!first) (.array :: outer) c = passValues (bound + 1) (.array :: outer) d := by
  cases next with
  | @begins letter _ looked other =>
    have noObject : Open.array = .object → letter ≠ '\x7d' := fun same => nomatch same
    exact (resume_run (passClosings_begins outer looked (fun _ => other) noObject)).trans rfl
  | follows looked behind =>
    rw [Bool.not_false, resume_comma looked, passValues_token behind]
    rfl

theorem resume_member {first : Bool} (next : NextMember c first true d)
    (keyed : passKey (.object :: outer) d = .ok ((), e)) :
    resume bound (!first) (.object :: outer) c = passValues bound (.object :: outer) e := by
  cases next with
  | begins looked =>
    have noArray : Open.object = .array → '"' ≠ ']' := fun same => nomatch same
    exact (resume_run (passClosings_begins outer looked noArray fun _ => by decide)).trans (bind_run keyed)
  | @follows f _ looked behind =>
    have same : token f.advance = token d := behind.trans (token_again behind).symm
    have key : passKey (.object :: outer) f.advance = passKey (.object :: outer) d := bind_alike same
    rw [Bool.not_false, resume_comma looked]
    exact bind_run (key.trans keyed)

theorem endOfArray_eq_ok (ended : endOfArray c = .ok ((), c')) : ∃ d, token c = .ok (some ']', d) ∧ c' = d.advance := by
  obtain ⟨next, d, looked, ended⟩ := bind_eq_ok.mp ended
  split at ended
  · cases ended
  · cases ended
    exact ⟨d, looked, rfl⟩
  · obtain ⟨_, e, _, ended⟩ := bind_eq_ok.mp ended
    obtain ⟨next, f, _, ended⟩ := bind_eq_ok.mp ended
    split at ended <;> cases ended
  · cases ended

theorem endOfObject_eq_ok (ended : endOfObject c = .ok ((), c')) :
    ∃ d, token c = .ok (some '\x7d', d) ∧ c' = d.advance := by
  obtain ⟨next, d, looked, ended⟩ := bind_eq_ok.mp ended
  split at ended
  · cases ended
  · cases ended
    exact ⟨d, looked, rfl⟩
  · cases ended
  · cases ended

theorem colon_eq_ok (read : colon c = .ok ((), c')) : ∃ d, token c = .ok (some ':', d) ∧ c' = d.advance := by
  obtain ⟨next, d, looked, ended⟩ := bind_eq_ok.mp read
  split at ended
  · cases ended
  · cases ended
    exact ⟨d, looked, rfl⟩
  · cases ended

theorem passKey_of_key {name : String} (outer : List Open) (looked : token c = .ok (some '"', c))
    (read : key c = .ok (name, d)) (parted : colon d = .ok ((), e)) :
    passKey (.object :: outer) c = .ok ((), e) ∧ e.rest.length < c.rest.length := by
  obtain ⟨_, f, moved, read⟩ := bind_eq_ok.mp read
  cases moved
  obtain ⟨passed, shorter⟩ := passString_of_stringBody read
  obtain ⟨g, behind, rfl⟩ := colon_eq_ok parted
  have less := length_of_token looked
  have fewer := length_of_token behind
  refine ⟨?_, by omega⟩
  refine (bind_run looked).trans ?_
  exact (bind_run rfl).trans ((bind_run passed).trans parted)

/-- Between two places a value is passed over, whatever is open around it. It takes at least one byte for each step. -/
def Passed (c c' : Cursor) : Prop :=
  ∃ n, n + c'.rest.length < c.rest.length ∧
    ∀ bound opened, passValues (bound + n + 1) opened c = resume bound true opened c'

/-- Between two places the rest of an array or object is passed over. -/
def Closed (frame : Open) (first : Bool) (c c' : Cursor) : Prop :=
  ∃ n, n + c'.rest.length < c.rest.length ∧
    ∀ bound outer, resume (bound + n) (!first) (frame :: outer) c = resume bound true outer c'

variable {item : Reader Json} {first : Bool} {f : Cursor}

theorem Closed.endsArray (looked : token c = .ok (some ']', d)) : Closed .array first c d.advance := by
  have shorter := length_of_token looked
  exact ⟨0, by omega, fun bound outer => resume_array_end looked⟩

theorem Closed.endsObject (looked : token c = .ok (some '\x7d', d)) : Closed .object first c d.advance := by
  have shorter := length_of_token looked
  exact ⟨0, by omega, fun bound outer => resume_object_end looked⟩

theorem Closed.ofItem (next : NextItem c first true d) (one : Passed d e) (rest : Closed .array false e c') :
    Closed .array first c c' := by
  obtain ⟨m, less, passes⟩ := one
  obtain ⟨k, fewer, closes⟩ := rest
  have shorter := next.shorter
  refine ⟨k + m + 1, by omega, fun bound outer => ?_⟩
  rw [← Nat.add_assoc, ← Nat.add_assoc]
  calc resume (bound + k + m + 1) (!first) (.array :: outer) c
      = passValues (bound + k + m + 1) (.array :: outer) d := resume_item next
    _ = resume (bound + k) true (.array :: outer) e := passes (bound + k) _
    _ = resume bound true outer c' := closes bound outer

theorem Closed.ofMember (next : NextMember c first true d) (keyed : ∀ outer, passKey (.object :: outer) d = .ok ((), e))
    (behind : e.rest.length < d.rest.length) (one : Passed e f) (rest : Closed .object false f c') :
    Closed .object first c c' := by
  obtain ⟨m, less, passes⟩ := one
  obtain ⟨k, fewer, closes⟩ := rest
  have shorter := next.shorter
  refine ⟨k + m + 1, by omega, fun bound outer => ?_⟩
  rw [← Nat.add_assoc, ← Nat.add_assoc]
  calc resume (bound + k + m + 1) (!first) (.object :: outer) c
      = passValues (bound + k + m + 1) (.object :: outer) e := resume_member next (keyed outer)
    _ = resume (bound + k) true (.object :: outer) f := passes (bound + k) _
    _ = resume bound true outer c' := closes bound outer

theorem items_closed (each : ∀ c w c', item c = .ok (w, c') → Passed c c') {xs : List Json}
    (read : items item bound first c = .ok (xs, d)) (ended : endOfArray d = .ok ((), c')) :
    Closed .array first c c' := by
  induction bound generalizing first c xs with
  | zero => cases read
  | succ bound ih =>
    obtain ⟨another, e, found, read⟩ := bind_eq_ok.mp read
    have next := nextItem found
    cases another with
    | false =>
      cases read
      cases next with
      | ends looked =>
        obtain ⟨f, again, rfl⟩ := endOfArray_eq_ok ended
        cases (token_again looked).symm.trans again
        exact .endsArray looked
    | true =>
      obtain ⟨x, f, one, read⟩ := bind_eq_ok.mp read
      obtain ⟨rest, g, more, read⟩ := bind_eq_ok.mp read
      cases read
      exact .ofItem next (each e x f one) (ih more)

theorem members_closed (each : ∀ c w c', item c = .ok (w, c') → Passed c c') {start pairs : List (String × Json)}
    (read : members (keepMember item) bound first start c = .ok (pairs, d)) (ended : endOfObject d = .ok ((), c')) :
    Closed .object first c c' := by
  induction bound generalizing first start c with
  | zero => cases read
  | succ bound ih =>
    obtain ⟨another, e, found, read⟩ := bind_eq_ok.mp read
    have next := nextMember found
    cases another with
    | false =>
      cases read
      cases next with
      | ends looked =>
        obtain ⟨f, again, rfl⟩ := endOfObject_eq_ok ended
        cases (token_again looked).symm.trans again
        exact .endsObject looked
    | true =>
      obtain ⟨name, f, named, read⟩ := bind_eq_ok.mp read
      obtain ⟨known, g, kept, read⟩ := bind_eq_ok.mp read
      obtain ⟨_, h, parted, kept⟩ := bind_eq_ok.mp kept
      obtain ⟨x, i, one, kept⟩ := bind_eq_ok.mp kept
      obtain rfl : i = g := congrArg Prod.snd (Except.ok.inj kept)
      have keyed (outer : List Open) := passKey_of_key outer next.quote named parted
      exact .ofMember next (fun outer => (keyed outer).1) (keyed []).2 (each h x i one) (ih read)

theorem passed_of_opening (opens : passOpening c = .ok (none, c')) (shorter : c'.rest.length < c.rest.length) :
    Passed c c' :=
  ⟨0, by omega, fun _ _ => passValues_closed opens⟩

theorem Closed.passed {frame : Open} (closed : Closed frame true d c') (opens : passOpening c = .ok (some frame, d))
    (shorter : d.rest.length < c.rest.length) : Passed c c' := by
  obtain ⟨k, fewer, closes⟩ := closed
  refine ⟨k, by omega, fun bound opened => ?_⟩
  rw [passValues_open opens]
  exact closes bound opened

theorem passOpening_digit {letter : Char} (looked : token c = .ok (some letter, d))
    (digit : '0' ≤ letter ∧ letter ≤ '9') : passOpening c = (do passNumeral; return none : Reader (Option Open)) d := by
  have other {x : Char} (is : some letter = some x) : '0' ≤ x ∧ x ≤ '9' := Option.some.inj is ▸ digit
  refine (bind_run looked).trans (congrFun ?_ _)
  split
  · contradiction
  · next is => exact absurd (other is) (by decide)
  · next is => exact absurd (other is) (by decide)
  · next is => exact absurd (other is) (by decide)
  · next is => exact absurd (other is) (by decide)
  · next is => exact absurd (other is) (by decide)
  · next is => exact absurd (other is) (by decide)
  · next is => exact absurd (other is) (by decide)
  · next is =>
    cases is
    rw [if_pos digit]

theorem passOpening_leaf {letter : Char} {w : Json} (leaf : Leaf c letter w c') :
    passOpening c = .ok (none, c') ∧ c'.rest.length < c.rest.length := by
  have behind {d : Cursor} {rest : Reader Unit} {letter : Char} (looked : token c = .ok (some letter, d))
      (spelled : rest d.advance = .ok ((), c')) (shortens : Shortens rest) : c'.rest.length < c.rest.length :=
    Nat.lt_of_le_of_lt (shortens _ _ _ spelled) (length_of_token looked)
  cases leaf with
  | null looked spelled =>
    exact ⟨(bind_run looked).trans ((bind_run rfl).trans (bind_run spelled)), behind looked spelled (.word _)⟩
  | yes looked spelled =>
    exact ⟨(bind_run looked).trans ((bind_run rfl).trans (bind_run spelled)), behind looked spelled (.word _)⟩
  | no looked spelled =>
    exact ⟨(bind_run looked).trans ((bind_run rfl).trans (bind_run spelled)), behind looked spelled (.word _)⟩
  | @negative d _ _ looked digits =>
    obtain ⟨passed, shorter⟩ := passNumeral_of_numeral digits
    refine ⟨(bind_run looked).trans ((bind_run rfl).trans (bind_run passed)), ?_⟩
    have fewer := Nat.le_trans shorter (Shortens.advance d.advance () _ rfl)
    exact Nat.lt_of_le_of_lt fewer (length_of_token looked)
  | natural looked digit digits =>
    obtain ⟨passed, shorter⟩ := passNumeral_of_numeral digits
    exact ⟨(passOpening_digit looked digit).trans (bind_run passed),
      Nat.lt_of_le_of_lt shorter (length_of_token looked)⟩

theorem Stands.passed {inner : Option (Reader Json)} {w : Json} (stands : Stands inner c w c')
    (each : ∀ item, inner = some item → ∀ c w c', item c = .ok (w, c') → Passed c c') : Passed c c' := by
  cases stands with
  | leaf leaf =>
    obtain ⟨opens, shorter⟩ := passOpening_leaf leaf
    exact passed_of_opening opens shorter
  | string looked body =>
    obtain ⟨passed, shorter⟩ := passString_of_stringBody body
    have opens : passOpening c = .ok (none, c') := (bind_run looked).trans ((bind_run rfl).trans (bind_run passed))
    exact passed_of_opening opens (Nat.lt_of_le_of_lt shorter (length_of_token looked))
  | @array item d _ _ _ within looked read ended =>
    have opens : passOpening c = .ok (some .array, d.advance) := bind_run looked
    exact (items_closed (each item within) read ended).passed opens (length_of_token looked)
  | @object item d _ _ _ within looked read ended =>
    have opens : passOpening c = .ok (some .object, d.advance) := bind_run looked
    exact (members_closed (each item within) read ended).passed opens (length_of_token looked)

theorem written_passed {room : Nat} {w : Json} (read : written room c = .ok (w, c')) : Passed c c' := by
  induction room generalizing c w c' with
  | zero =>
    refine (stands_of_written read).passed ?_
    rintro item ⟨⟩
  | succ room ih =>
    refine (stands_of_written read).passed ?_
    rintro item ⟨⟩ c w c' read
    exact ih read

theorem Passed.passValue (passed : Passed c c') : passValue c = .ok ((), c') := by
  obtain ⟨n, fewer, passes⟩ := passed
  obtain ⟨bound, enough⟩ : ∃ bound, c.rest.length + 1 = bound + n + 1 := ⟨c.rest.length - n, by omega⟩
  have all : Reader.passValue c = passValues (c.rest.length + 1) [] c := rfl
  rw [all, enough, passes]
  exact resume_nil

theorem passValue_of_written {room : Nat} {w : Json} (read : written room c = .ok (w, c')) :
    passValue c = .ok ((), c') :=
  (written_passed read).passValue

end ChannelFeed.Json.Reader
