import ChannelFeed.Proofs.Json.Members
import ChannelFeed.Proofs.Json.Reads

/-!
# What a value can be that was read

Whatever text it came from, a value that was read has the members of every object in the order of their
keys, each key once, and is nested no deeper than the reader had room for.
-/

namespace ChannelFeed.Json

/-- The members of every object stand in order, and arrays and objects are nested at most `room` deep. -/
inductive Fits : (room : Nat) → Json → Prop
  | null {room : Nat} : Fits room .null
  | bool {room : Nat} (b : Bool) : Fits room (.bool b)
  | integer {room : Nat} (n : JsonInt) : Fits room (.integer n)
  | double {room : Nat} (x : Binary64) : Fits room (.double x)
  | string {room : Nat} (s : String) : Fits room (.string s)
  | array {room : Nat} {items : List Json} (fit : ∀ v ∈ items, Fits room v) : Fits (room + 1) (.array items)
  | object {room : Nat} {members : Members} (sorted : Sorted members) (fit : ∀ m ∈ members, Fits room m.2) :
    Fits (room + 1) (.object members)

namespace Reader

variable {α β σ : Type} {p : α → Prop}

/-- Whatever the reader gives has a property. -/
def Gives (reader : Reader α) (p : α → Prop) : Prop :=
  ∀ (c : Cursor) (x : α) (c' : Cursor), reader c = .ok (x, c') → p x

theorem Gives.pure {x : α} (holds : p x) : Gives (pure x) p := by
  rintro c _ _ ⟨⟩
  exact holds

theorem Gives.failAhead {cause : Cause} : Gives (failAhead cause) p := by
  rintro c _ _ ⟨⟩

theorem Gives.bind {q : β → Prop} {first : Reader β} {next : β → Reader α} (given : Gives first q)
    (rest : ∀ x, q x → Gives (next x) p) : Gives (first >>= next) p := by
  intro c x c' read
  obtain ⟨y, d, known, read⟩ := bind_eq_ok.mp read
  exact rest y (given _ _ _ known) _ _ _ read

theorem Gives.trivial {reader : Reader α} : Gives reader fun _ => True := fun _ _ _ _ => True.intro

theorem Gives.after {first : Reader β} {next : β → Reader α} (rest : ∀ x, Gives (next x) p) :
    Gives (first >>= next) p :=
  Gives.trivial.bind fun x _ => rest x

theorem items_gives {item : Reader α} (each : Gives item p) (bound : Nat) (first : Bool) :
    Gives (items item bound first) fun xs => ∀ x ∈ xs, p x := by
  induction bound generalizing first with
  | zero => exact .failAhead
  | succ bound ih =>
    refine .after fun another => ?_
    split
    · refine each.bind fun x holds => (ih false).bind fun xs hold => .pure ?_
      exact List.forall_mem_cons.mpr ⟨holds, hold⟩
    · exact .pure fun _ none => absurd none List.not_mem_nil

theorem members_gives {inv : σ → Prop} {member : String → σ → Reader σ}
    (each : ∀ key s, inv s → Gives (member key s) inv) (bound : Nat) (first : Bool) {s : σ} (holds : inv s) :
    Gives (members member bound first s) inv := by
  induction bound generalizing first s with
  | zero => exact .failAhead
  | succ bound ih =>
    refine .after fun another => ?_
    split
    · exact .after fun key => (each key s holds).bind fun _ holds => ih false holds
    · exact .pure holds

variable {room : Nat}

theorem numeral_fits (n : Numeral) : Fits room n.json := by
  cases n with
  | natural n h => exact .integer _
  | negative n h => exact .integer _
  | double x => exact .double x

theorem arrayBody_gives {item : Reader Json} (each : Gives item (Fits room)) :
    Gives (arrayBody item) (Fits (room + 1)) :=
  .after fun _ => (items_gives each _ _).bind fun _ fit => .after fun _ => .pure (.array fit)

theorem objectBody_gives {item : Reader Json} (each : Gives item (Fits room)) :
    Gives (objectBody item) (Fits (room + 1)) := by
  let inv (ms : Members) : Prop := Sorted ms ∧ ∀ m ∈ ms, Fits room m.2
  have put (key : String) (ms : Members) (kept : inv ms) :
      Gives (do colon; return insert key (← item) ms) inv := by
    refine .after fun _ => each.bind fun v fit => .pure ⟨kept.1.insert, ?_⟩
    intro m there
    rcases mem_of_mem_insert there with rfl | there
    · exact fit
    · exact kept.2 m there
  refine .after fun _ => (members_gives put _ _ ⟨List.Pairwise.nil, fun _ none => absurd none List.not_mem_nil⟩).bind
    fun ms kept => .after fun _ => .pure (.object kept.1 kept.2)

theorem valueWith_gives {inner : Option (Reader Json)}
    (array : ∀ item, inner = some item → Gives (arrayBody item) (Fits room))
    (object : ∀ item, inner = some item → Gives (objectBody item) (Fits room)) :
    Gives (valueWith inner) (Fits room) := by
  unfold valueWith
  refine .after fun next => ?_
  split
  · exact .failAhead
  · exact .after fun _ => .after fun _ => .pure .null
  · exact .after fun _ => .after fun _ => .pure (.bool true)
  · exact .after fun _ => .after fun _ => .pure (.bool false)
  · exact .after fun _ => .after fun s => .pure (.string s)
  · exact .after fun _ => .after fun n => .pure (numeral_fits n)
  · split
    · exact .failAhead
    · next item => exact .after fun _ => array item rfl
  · split
    · exact .failAhead
    · next item => exact .after fun _ => object item rfl
  · split
    · exact .after fun n => .pure (numeral_fits n)
    · exact .failAhead

theorem value_gives (room : Nat) : Gives (value room) (Fits room) := by
  induction room with
  | zero => exact valueWith_gives (fun _ none => nomatch none) fun _ none => nomatch none
  | succ room ih =>
    refine valueWith_gives ?_ ?_
    · rintro item ⟨⟩
      exact arrayBody_gives ih
    · rintro item ⟨⟩
      exact objectBody_gives ih

theorem whole?_gives {reader : Reader α} (given : Gives reader p) {bytes : List UInt8} {x : α}
    (read : whole? reader bytes = .ok x) : p x := by
  have all : Gives (do let x ← reader; endOfText; return x : Reader α) p :=
    given.bind fun x holds => .after fun _ => .pure holds
  obtain ⟨⟨y, c⟩, accepted, same⟩ := ChannelFeed.bind_eq_ok.mp read
  cases same
  exact all _ _ _ accepted

end Reader

theorem fits_of_read {bytes : List UInt8} {v : Json} (read : Json.read bytes = .ok v) : v.Fits Reader.maxDepth :=
  Reader.whole?_gives (Reader.value_gives _) read

end ChannelFeed.Json
