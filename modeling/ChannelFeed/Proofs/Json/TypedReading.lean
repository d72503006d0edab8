import ChannelFeed.Json.Typed
import ChannelFeed.Proofs.Json.Passing
import ChannelFeed.Proofs.Json.Repeats

/-!
# Typed readers and written values

Where a value can be read, a typed reader does what can be told from the value as it is written: it makes something of it
and ends where the value ends, or it fails. So what separates a typed reader from one that makes a value first is seen on
the written value, without the text.
-/

namespace ChannelFeed.Json.Reader

variable {α β σ : Type} {c d c' : Cursor}

/-- The run of a reader ends with this result at this place, or fails if there is no result. -/
def Yields (reader : Reader α) (c : Cursor) : Option α → Cursor → Prop
  | some x, c' => reader c = .ok (x, c')
  | none, _ => ∀ r, reader c ≠ .ok r

namespace Yields

theorem fail {cause : Cause} : Yields (fail cause : Reader α) c none c' := fun _ h => nomatch h

theorem failAhead {cause : Cause} : Yields (failAhead cause : Reader α) c none c' := fun _ h => nomatch h

theorem after {first : Reader α} {next : α → Reader β} {x : α} {y : Option β} (run : first c = .ok (x, d))
    (rest : Yields (next x) d y c') : Yields (first >>= next) c y c' := by
  cases y with
  | none => exact fun r => (bind_run run).symm ▸ rest r
  | some y => exact (bind_run run).trans rest

theorem bind {first : Reader α} {next : α → Reader β} {x : Option α} {f : α → Option β} (one : Yields first c x d)
    (rest : ∀ y, Yields (next y) d (f y) c') : Yields (first >>= next) c (x.bind f) c' := by
  cases x with
  | some x => exact .after one (rest x)
  | none =>
    intro r read
    obtain ⟨x, e, known, -⟩ := bind_eq_ok.mp read
    exact one _ known

theorem ended {first : Reader α} {next : α → Reader α} {x : Option α} (one : Yields first c x d)
    (rest : ∀ y, next y d = .ok (y, c')) : Yields (first >>= next) c x c' := by
  rw [← Option.bind_fun_some x]
  exact one.bind rest

theorem never {first : Reader β} {next : β → Reader α} (rest : ∀ x d, Yields (next x) d none c') :
    Yields (first >>= next) c none c' := by
  intro r read
  obtain ⟨x, d, -, read⟩ := bind_eq_ok.mp read
  exact rest x d r read

theorem map {reader : Reader α} {x : Option α} (one : Yields reader c x c') (f : α → β) :
    Yields (do return f (← reader)) c (x.map f) c' := by
  rw [Option.map_eq_bind]
  exact one.bind fun _ => rfl

end Yields

theorem wrongKind_yields {expected : Expected} : Yields (wrongKind expected : Reader α) c none c' := by
  refine .never fun next d => ?_
  split
  · exact .never fun _ _ => .never fun _ _ => .fail
  · exact .never fun _ _ => .never fun _ _ => .fail
  · exact .never fun _ _ => .never fun _ _ => .fail
  · exact .never fun _ _ => .never fun _ _ => .fail
  · exact .never fun _ _ => .never fun _ _ => .fail
  · exact .fail
  · exact .fail
  · split
    · exact .never fun _ _ => .fail
    · exact .failAhead
  · exact .failAhead

theorem reject_yields {cause : Cause} : Yields (reject cause : Reader α) c none c' := by
  refine .after rfl ?_
  split
  · exact .after rfl .fail
  · exact .fail

/-- Where a value can be read, the reader yields what `f` makes of it as it is written. -/
def Takes (reader : Reader α) (room : Nat) (f : Json → Option α) : Prop :=
  ∀ c w c', written room c = .ok (w, c') → Yields reader c (f w) c'

variable {room : Nat} {letter : Char} {w : Json} {f : Json → Option α}

/-- Where nothing may be nested any more, no array or object is read. -/
theorem stands (read : written room c = .ok (w, c')) :
    ∃ inner, Stands inner c w c' ∧ ∀ item, inner = some item → ∃ r, room = r + 1 ∧ item = written r := by
  cases room with
  | zero => exact ⟨none, stands_of_written read, fun _ none => nomatch none⟩
  | succ room => exact ⟨some (written room), stands_of_written read, fun _ is => ⟨room, rfl, (Option.some.inj is).symm⟩⟩

theorem value_takes : Takes (value room) room fun w => some w.normal := by
  intro c w c' read
  rw [value_eq]
  change (written room c >>= fun r => Pure.pure (r.1.normal, r.2)) = _
  rw [read]
  rfl

theorem string_other (looked : token c = .ok (some letter, d)) (other : letter ≠ '"') : Yields string c none c' := by
  refine .after looked ?_
  split
  · contradiction
  · next is => exact absurd (Option.some.inj is) other
  · exact wrongKind_yields

theorem string_takes : Takes string room text? := by
  intro c w c' read
  obtain ⟨inner, stands, -⟩ := stands read
  cases stands with
  | leaf leaf =>
    obtain ⟨d, looked⟩ := leaf.looked
    rw [leaf.plain.1]
    exact string_other looked leaf.distinct.1
  | string looked body => exact .after looked (.after rfl body)
  | array _ looked => exact string_other looked (by decide)
  | object _ looked => exact string_other looked (by decide)

theorem items_yields {item : Reader α} (each : Takes item room f) {bound : Nat} {first : Bool} {ws : List Json}
    (read : items (written room) bound first c = .ok (ws, d)) : Yields (items item bound first) c (ws.mapM f) d := by
  induction bound generalizing first c ws with
  | zero => cases read
  | succ bound ih =>
    obtain ⟨another, e, found, read⟩ := bind_eq_ok.mp read
    refine .after found ?_
    cases another with
    | false =>
      cases read
      exact rfl
    | true =>
      obtain ⟨w, e, one, read⟩ := bind_eq_ok.mp read
      obtain ⟨rest, g, more, read⟩ := bind_eq_ok.mp read
      cases read
      rw [List.mapM_cons]
      exact (each _ w e one).bind fun x => (ih more).bind fun xs => rfl

theorem list_other {item : Nat → Reader α} (looked : token c = .ok (some letter, d)) (other : letter ≠ '[') :
    Yields (list room item) c none c' := by
  refine .after looked ?_
  split
  · contradiction
  · next is => exact absurd (Option.some.inj is) other
  · exact wrongKind_yields

theorem list_takes {item : Nat → Reader α} (each : ∀ r, Takes (item r) r f) :
    Takes (list room item) room fun w => w.items?.bind (List.mapM f) := by
  intro c w c' read
  obtain ⟨inner, stands, nested⟩ := stands read
  cases stands with
  | leaf leaf =>
    obtain ⟨d, looked⟩ := leaf.looked
    simp only [leaf.plain.2.1]
    exact list_other looked leaf.distinct.2.1
  | string looked => exact list_other looked (by decide)
  | @array item d e _ xs within looked read ended =>
    obtain ⟨r, rfl, rfl⟩ := nested _ within
    exact .after looked (.after rfl (.after rfl ((items_yields (each r) read).ended fun xs => bind_run ended)))
  | object _ looked => exact list_other looked (by decide)

/-- Where a value can be read behind the colon, a member adds what is told of it by `step`. -/
def TakesMember (member : String → σ → Reader σ) (room : Nat) (step : σ → String × Json → Option σ) : Prop :=
  ∀ k s c d w c', colon c = .ok ((), d) → written room d = .ok (w, c') → Yields (member k s) c (step s (k, w)) c'

/-- The members of an object are taken one after another, as they are written. -/
theorem members_yields {member : String → σ → Reader σ} {step : σ → String × Json → Option σ}
    (each : TakesMember member room step) {bound : Nat} {first : Bool} {start pairs : List (String × Json)}
    (read : members (keepMember (written room)) bound first start c = .ok (pairs, d)) :
    ∃ new, pairs = start ++ new ∧ ∀ s, Yields (members member bound first s) c (new.foldlM step s) d := by
  induction bound generalizing first start c with
  | zero => cases read
  | succ bound ih =>
    obtain ⟨another, e, found, read⟩ := bind_eq_ok.mp read
    cases another with
    | false =>
      cases read
      exact ⟨[], (List.append_nil _).symm, fun s => .after found rfl⟩
    | true =>
      obtain ⟨k, f, named, read⟩ := bind_eq_ok.mp read
      obtain ⟨known, g, kept, read⟩ := bind_eq_ok.mp read
      obtain ⟨_, h, parted, kept⟩ := bind_eq_ok.mp kept
      obtain ⟨w, i, one, kept⟩ := bind_eq_ok.mp kept
      cases kept
      obtain ⟨new, rfl, rest⟩ := ih read
      refine ⟨(k, w) :: new, List.append_assoc _ _ _, fun s => .after found (.after named ?_)⟩
      rw [List.foldlM_cons]
      exact (each k s f h w _ parted one).bind rest

theorem field_yields {reader : Reader α} (takes : Takes reader room f) {name : String} {known : Option α}
    (parted : colon c = .ok ((), d)) (read : written room d = .ok (w, c')) :
    Yields (field name known reader) c (once known (f w)) c' := by
  cases known with
  | some x => exact reject_yields
  | none => exact .after parted ((takes d w c' read).map some)

theorem passMember_yields (parted : colon c = .ok ((), d)) (read : written room d = .ok (w, c')) :
    Yields passMember c (some ()) c' :=
  (bind_run parted).trans (passValue_of_written read)

variable {kind : Record σ α} {step : σ → String × Json → Option σ}

/-- A record, given the members as they are written. -/
def recordOf (kind : Record σ α) (step : σ → String × Json → Option σ) (pairs : List (String × Json)) : Option α :=
  (pairs.foldlM step kind.start).bind fun s => (kind.finish s).toOption

theorem record_object (each : ∀ r, TakesMember (kind.member r) r step) {pairs : List (String × Json)}
    (read : written room c = .ok (.object pairs, c')) : Yields (record kind room) c (recordOf kind step pairs) c' := by
  obtain ⟨inner, stands, nested⟩ := stands read
  cases stands with
  | leaf leaf => exact nomatch leaf.plain.2.2
  | @object item d e _ _ within looked read ended =>
    obtain ⟨r, rfl, rfl⟩ := nested _ within
    obtain ⟨new, rfl, all⟩ := members_yields (each r) read
    refine .after looked (.after rfl (.after rfl ((all kind.start).bind fun s => ?_)))
    cases made : kind.finish s with
    | error cause => exact reject_yields
    | ok x => exact .after ended rfl

theorem record_other (never : kind.fromArray = none) (looked : token c = .ok (some letter, d))
    (other : letter ≠ '\x7b') : Yields (record kind room) c none c' := by
  refine .after looked ?_
  split
  · contradiction
  · next is => exact absurd (Option.some.inj is) other
  · rw [never]
    exact wrongKind_yields
  · exact wrongKind_yields

theorem record_takes (never : kind.fromArray = none) (each : ∀ r, TakesMember (kind.member r) r step) :
    Takes (record kind room) room fun w => w.pairs?.bind (recordOf kind step) := by
  intro c w c' read
  obtain ⟨inner, stands, -⟩ := stands read
  cases stands with
  | leaf leaf =>
    obtain ⟨d, looked⟩ := leaf.looked
    simp only [leaf.plain.2.2]
    exact record_other never looked leaf.distinct.2.2
  | string looked => exact record_other never looked (by decide)
  | array _ looked => exact record_other never looked (by decide)
  | object => exact record_object each read

theorem whole?_eq_ok {reader : Reader α} {bytes : List UInt8} {x : α} :
    whole? reader bytes = .ok x ↔ ∃ c d, reader (.start bytes) = .ok (x, c) ∧ endOfText c = .ok ((), d) := by
  constructor
  · intro read
    obtain ⟨⟨y, d⟩, read, same⟩ := ChannelFeed.bind_eq_ok.mp read
    cases same
    obtain ⟨z, c, one, read⟩ := bind_eq_ok.mp read
    obtain ⟨_, e, ended, read⟩ := bind_eq_ok.mp read
    cases read
    exact ⟨c, d, one, ended⟩
  · rintro ⟨c, d, one, ended⟩
    exact ChannelFeed.bind_eq_ok.mpr ⟨(x, d), (bind_run one).trans (bind_run ended), rfl⟩

/-- If a whole text can be read, a typed reader accepts it as far as it makes something of what is written. -/
theorem whole?_yields {reader : Reader α} {bytes : List UInt8} {x : Option α}
    (yields : ∀ c', written room (.start bytes) = .ok (w, c') → Yields reader (.start bytes) x c')
    (read : whole? (written room) bytes = .ok w) (y : α) : whole? reader bytes = .ok y ↔ x = some y := by
  obtain ⟨c, d, one, ended⟩ := whole?_eq_ok.mp read
  have run := yields c one
  rw [whole?_eq_ok]
  cases x with
  | none => exact ⟨fun ⟨_, _, other, _⟩ => absurd other (run _), fun h => nomatch h⟩
  | some x =>
    constructor
    · rintro ⟨e, _, other, -⟩
      cases run.symm.trans other
      rfl
    · rintro ⟨⟩
      exact ⟨c, d, run, ended⟩

end ChannelFeed.Json.Reader
