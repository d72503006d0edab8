import ChannelFeed.Proofs.Feed.Beside
import ChannelFeed.Proofs.Feed.Isolation

/-!
# Worlds with one load less

A world and the same world without one load that waits in line go on side by side. A turn of the load falls out, and any
other has its like, though those behind the load stand one place further on. The worlds differ in who owns the slot of
the load, which only a watch can tell.
-/
namespace ChannelFeed

open Cache

/-! ## Lines with one call less -/

/-- A line beside the same line without one load, given the place of the load in it. -/
inductive Line : List (String × Call) → List (String × Call) → Option Nat → Prop where
  | whole (calls : List (String × Call)) : Line calls calls none
  | without (front : List (String × Call)) (load : String × Call) (back : List (String × Call)) :
    load.2.since = 0 → Line (front ++ load :: back) (front ++ back) (some front.length)

/-- The place in the line without a load of those who stand in a place of the whole line. -/
def closedUp (gone : Option Nat) (place : Nat) : Nat :=
  match gone with
  | none => place
  | some p => if place < p then place else place - 1

namespace Line

variable {calls calls' : List (String × Call)} {gone : Option Nat} {place : Nat}

theorem append (line : Line calls calls' gone) (more : List (String × Call)) :
    Line (calls ++ more) (calls' ++ more) gone := by
  cases line with
  | whole => exact .whole _
  | without front load back any =>
    rw [List.append_assoc, List.cons_append, List.append_assoc]
    exact .without front load (back ++ more) any

theorem getElem? (line : Line calls calls' gone) (other : gone ≠ some place) :
    calls'[closedUp gone place]? = calls[place]? := by
  cases line with
  | whole => rfl
  | without front load back any =>
    have apart : place ≠ front.length := fun same => other (same ▸ rfl)
    unfold closedUp
    dsimp only
    by_cases before : place < front.length
    · rw [if_pos before, List.getElem?_append_left before, List.getElem?_append_left before]
    · rw [if_neg before, List.getElem?_append_right (by omega), List.getElem?_append_right (by omega)]
      have behind : place - front.length = place - 1 - front.length + 1 := by omega
      rw [behind, List.getElem?_cons_succ]

theorem eraseIdx (line : Line calls calls' gone) (other : gone ≠ some place) :
    Line (calls.eraseIdx place) (calls'.eraseIdx (closedUp gone place))
      (gone.map fun p => if place < p then p - 1 else p) := by
  cases line with
  | whole => exact .whole _
  | without front load back any =>
    have apart : place ≠ front.length := fun same => other (same ▸ rfl)
    simp only [closedUp, Option.map_some]
    by_cases before : place < front.length
    · rw [if_pos before, if_pos before, List.eraseIdx_append_of_lt_length before,
        List.eraseIdx_append_of_lt_length before, ← List.length_eraseIdx_of_lt before]
      exact .without (front.eraseIdx place) load back any
    · have behind : place - front.length = place - 1 - front.length + 1 := by omega
      rw [if_neg before, if_neg before, List.eraseIdx_append_of_length_le (by omega),
        List.eraseIdx_append_of_length_le (by omega), behind, List.eraseIdx_cons_succ]
      exact .without front load _ any

/-- The first with a name is another one than the load that is gone. -/
theorem findIdx (line : Line calls calls' gone) (name : String)
    (other : gone ≠ some (calls.findIdx (·.1 == name))) :
    calls'.findIdx (·.1 == name) = closedUp gone (calls.findIdx (·.1 == name)) ∧
      calls'.any (·.1 == name) = calls.any (·.1 == name) := by
  cases line with
  | whole => exact ⟨rfl, rfl⟩
  | without front load back any =>
    rw [List.findIdx_append] at other
    simp only [closedUp, List.findIdx_append, List.findIdx_cons] at other ⊢
    by_cases before : front.findIdx (·.1 == name) < front.length
    · rw [if_pos before, if_pos before, if_pos before]
      obtain ⟨pair, there, named⟩ := List.findIdx_lt_length.mp before
      have found : front.any (·.1 == name) = true := List.any_eq_true.mpr ⟨pair, there, named⟩
      rw [List.any_append, List.any_append, found]
      exact ⟨rfl, rfl⟩
    · rw [if_neg before] at other
      rw [if_neg before, if_neg before]
      cases named : load.1 == name with
      | true =>
        rw [named, cond_true, Nat.zero_add] at other
        exact absurd rfl other
      | false =>
        rw [cond_false, if_neg (by omega), List.any_append, List.any_append, List.any_cons, named, Bool.false_or]
        exact ⟨by omega, rfl⟩

end Line

/-! ## Watches of slots without an owner -/

namespace Watch

variable (x : Watch) (r : Registry (List Channel))

/-- Whether the slot has an owner is seen only in that a watch is closed. -/
theorem poll_owned :
    (x.poll r true).2 = (x.poll r false).2 ∧
      ((x.poll r true).1 = (x.poll r false).1 ∨ (x.poll r true).1 = .pending ∧ (x.poll r false).1 = .closed) := by
  unfold poll Receiver.poll
  cases x.receiver.isBehind r with
  | true =>
    cases same : (x.state r).same x.last with
    | true => exact ⟨by simp, .inr (by simp)⟩
    | false => exact ⟨by simp, .inl (by simp)⟩
  | false => exact ⟨rfl, .inr ⟨rfl, rfl⟩⟩

theorem poll_closed (closed : (x.poll r false).1 = .closed) :
    (x.poll r true).1 = .pending ∧ (x.poll r true).2.receiver.entry = x.receiver.entry ∧
      ((x.poll r true).2.poll r false).1 = .closed := by
  have seen : (x.receiver.caughtUp r).isBehind r = false := by simp [Receiver.isBehind, Receiver.caughtUp]
  unfold poll Receiver.poll at closed ⊢
  cases behind : x.receiver.isBehind r with
  | true =>
    cases same : (x.state r).same x.last with
    | true => exact ⟨by simp, rfl, by simp [seen]⟩
    | false => simp [behind, same] at closed
  | false => simp [behind]

theorem poll_congr {r' : Registry (List Channel)} (same : r'.cell x.receiver.entry = r.cell x.receiver.entry)
    (isOwned : Bool) : x.poll r' isOwned = x.poll r isOwned := by
  unfold poll Receiver.poll Receiver.isBehind Receiver.caughtUp state Registry.slot
  rw [same]

end Watch

namespace World

variable {w w' : World} {gone : Option Nat} {x : Watch}

/-- The slot of the watch has no owner, and there is nothing more to report of it. -/
structure Spent (w : World) (x : Watch) : Prop where
  made : x.receiver.entry < w.registry.cells.length
  unowned : w.isOwned x.receiver.entry = false
  closed : (x.poll w.registry false).1 = .closed

theorem Spent.turn (spent : w.Spent x) (ready : w.Ready) (turn : Turn) : (w.turn turn).Spent x := by
  have becomes := becomes_turn ready turn
  obtain ⟨still, same⟩ := becomes.unowned spent.made (Nat.le_refl _) spent.unowned
  refine ⟨Nat.lt_of_lt_of_le spent.made (becomes.precedes x.receiver.entry).2, still, ?_⟩
  rw [x.poll_congr _ same]
  exact spent.closed

theorem Spent.polled (spent : w.Spent x) (isOwned : Bool) : w.Spent (x.poll w.registry isOwned).2 := by
  obtain ⟨-, here, still⟩ := x.poll_closed w.registry spent.closed
  have rest : (x.poll w.registry isOwned).2 = (x.poll w.registry true).2 := by
    cases isOwned with
    | true => rfl
    | false => exact (x.poll_owned w.registry).1.symm
  rw [rest]
  exact ⟨here ▸ spent.made, here ▸ spent.unowned, still⟩

theorem attended_of_reached (reached : system.Reached w) : w.Attended := by
  obtain ⟨_, ⟨network, caches, feeds, rfl⟩, run⟩ := reached
  induction run with
  | refl =>
    intro x none
    cases none
  | tail earlier goes ih =>
    obtain ⟨turn, rfl⟩ := goes
    exact watched_of_turn ⟨_, ⟨network, caches, feeds, rfl⟩, earlier⟩ turn ih

theorem watch_made (reached : system.Reached w) (there : x ∈ w.watches.things ++ w.streams.things) :
    x.receiver.entry < w.registry.cells.length := by
  obtain ⟨entry, first, looks, watched⟩ := attended_of_reached reached x there
  have attentive := watched.attentive steady
  rw [attentive.on]
  exact attentive.made

/-! ## Worlds with one load less -/

/-- A stream and what has become of it in the world without the load: it is the same, or has ended already and had
nothing more to report. -/
def Trails (w' : World) (stream : Option Watch) (stream' : Option Watch) : Prop :=
  stream' = stream ∨ stream' = none ∧ ∃ x, stream = some x ∧ w'.Spent x

/-- A world beside the same world without one load, given the place of the load in line. -/
structure Beside (w w' : World) (gone : Option Nat) : Prop where
  same : w' = w.beside w'.calls w'.streams
  line : Line w.calls w'.calls gone
  streams : ∀ name, w'.Trails (w.streams.get? name) (w'.streams.get? name)

/-- What is told in the two worlds: the same, but that a watch of a slot to which no key leads may be closed earlier. -/
inductive Agrees (w : World) : Turn → Answer → Answer → Prop where
  | same (turn : Turn) (answer : Answer) : Agrees w turn answer answer
  | closed {turn : Turn} {x : Watch} :
    (∃ inRuntime name, turn = .command inRuntime (.changed name) ∧ w.watches.get? name = some x ∨
      turn = .command inRuntime (.next name) ∧ w.streams.get? name = some x) →
    w.registry.isListed x.receiver.entry = false → Agrees w turn (.news .pending) (.news .closed)
  | ended {inRuntime : Bool} {name : String} {x : Watch} {news : Watch.News} : w.streams.get? name = some x →
    w.registry.isListed x.receiver.entry = false → news = .pending ∨ news = .closed →
    Agrees w (.command inRuntime (.next name)) (.news news) .noHandle

/-- A turn in the one world and a turn in the other come to worlds beside each other, and are told the same of. -/
structure InStep (w w' : World) (gone : Option Nat) (turn turn' : Turn) : Prop where
  beside : Beside (w.turn turn) (w'.turn turn') gone
  agrees : Agrees w turn (w.answer turn) (w'.answer turn')

/-- The place in line of the one who is taken out of it in a turn. -/
def taken? (w : World) : Turn → Option Nat
  | .poll _ place => some place
  | .command _ (.cancel name) => some (w.calls.findIdx (·.1 == name))
  | _ => none

/-- The turn in the world without the load: a turn of the load itself falls out. -/
def turnWithout (w : World) (gone : Option Nat) (turn : Turn) : Option Turn :=
  if gone.isSome ∧ w.taken? turn = gone then none
  else
    match turn with
    | .poll inRuntime place => some (.poll inRuntime (closedUp gone place))
    | other => some other

/-- The place of the load in line after a turn. Once it has its result or is cancelled it has none. -/
def placeAfter (w : World) (gone : Option Nat) (turn : Turn) : Option Nat :=
  if gone.isSome ∧ w.taken? turn = gone then
    if (w.turn turn).calls.length = w.calls.length then some (w.calls.length - 1) else none
  else
    match w.taken? turn with
    | some place => gone.map fun p => if place < p then p - 1 else p
    | none => gone

/-- The turns in the world without the load. -/
def turnsWithout (w : World) (gone : Option Nat) : List Turn → List Turn
  | [] => []
  | turn :: rest => (w.turnWithout gone turn).toList ++ (w.turn turn).turnsWithout (w.placeAfter gone turn) rest

/-- The place of the load in line after some turns. -/
def placeAfterAll (w : World) (gone : Option Nat) : List Turn → Option Nat
  | [] => gone
  | turn :: rest => (w.turn turn).placeAfterAll (w.placeAfter gone turn) rest

/-! ## One turn in both worlds -/

theorem turn_poll_load (ready : w.Ready) {place : Nat} {name : String} {c : Call}
    (there : w.calls[place]? = some (name, c)) (any : c.since = 0) (inRuntime : Bool) :
    (∃ rest : Call, rest.since = 0 ∧
      w.turn (.poll inRuntime place) = w.beside (w.calls.eraseIdx place ++ [(name, rest)]) w.streams) ∨
    w.turn (.poll inRuntime place) = w.beside (w.calls.eraseIdx place) w.streams := by
  have waiting := List.mem_of_getElem? there
  have waits := ready.waits _ waiting
  have polls := polls_waiting inRuntime (ready.calls _ waiting) waits
  have comes := polls.of_load any
  rw [turn_poll there inRuntime]
  unfold pollCall
  cases busy : (w.registry.slot c.entry).isFetching with
  | true =>
    rw [busy, if_pos rfl] at comes
    obtain ⟨rest, same⟩ := comes
    rw [same] at polls
    have since := (polls.waits (ready.calls _ waiting) waits.since).2.2.1
    rw [same]
    exact .inl ⟨rest, since.trans any, rfl⟩
  | false =>
    rw [busy] at comes
    have same : _ = (Polled.done (w.registry.slot c.entry).state, w) := comes
    rw [same]
    refine .inr ?_
    rw [putBack, List.append_nil]
    rfl

namespace Beside

theorem registry (beside : Beside w w' gone) : w'.registry = w.registry := by rw [beside.same]; rfl

theorem calls_sub (beside : Beside w w' gone) : ∀ c ∈ w'.calls, c ∈ w.calls := by
  have line := beside.line
  generalize w.calls = calls at line
  generalize w'.calls = calls' at line
  cases line with
  | whole => exact fun c there => there
  | without front load back any =>
    intro c there
    rcases List.mem_append.mp there with before | behind
    · exact List.mem_append_left _ before
    · exact List.mem_append_right _ (List.mem_cons_of_mem _ behind)

theorem ready (beside : Beside w w' gone) (ready : w.Ready) : w'.Ready where
  toIntact := by
    refine ready.toIntact.keeps (.of_eq ?_ ?_ (fun c there => .inl (beside.calls_sub c there)) ?_)
    · rw [beside.same]; rfl
    · rw [beside.same]; rfl
    · rw [beside.same]; exact fun _ => .inl
  waits := by
    intro c there
    rw [beside.registry]
    exact ready.waits c (beside.calls_sub c there)

theorem isOwned (beside : Beside w w' gone) {entry : EntryId} (owned : w'.isOwned entry = true) :
    w.isOwned entry = true := by
  have more : w'.calls.any (·.2.entry == entry) = true → w.calls.any (·.2.entry == entry) = true := by
    simp only [List.any_eq_true]
    rintro ⟨c, there, same⟩
    exact ⟨c, beside.calls_sub c there, same⟩
  have rest : w'.isOwned entry = (w.registry.isListed entry || w.isKept entry ||
      w.claims.things.any (·.entry == entry) || w.flights.any (·.claim.entry == entry) ||
        w'.calls.any (·.2.entry == entry)) := by
    rw [beside.same]
    rfl
  rw [rest] at owned
  simp only [World.isOwned, Bool.or_eq_true] at owned ⊢
  exact owned.imp_right more

theorem not_listed (beside : Beside w w' gone) {entry : EntryId} (gone : w'.isOwned entry = false) :
    w.registry.isListed entry = false := by
  rw [← beside.registry]
  exact (isOwned_eq_false.mp gone).1

theorem pollWatch (beside : Beside w w' gone) (x : Watch) :
    (w'.pollWatch x).2 = (w.pollWatch x).2 ∧
      ((w'.pollWatch x).1 = (w.pollWatch x).1 ∨
        (w.pollWatch x).1 = .pending ∧ (w'.pollWatch x).1 = .closed ∧ w'.isOwned x.receiver.entry = false) := by
  unfold World.pollWatch
  rw [beside.registry]
  obtain ⟨rest, told⟩ := x.poll_owned w.registry
  cases owned' : w'.isOwned x.receiver.entry with
  | true =>
    rw [beside.isOwned owned']
    exact ⟨rfl, .inl rfl⟩
  | false =>
    cases owned : w.isOwned x.receiver.entry with
    | true =>
      refine ⟨rest.symm, told.imp Eq.symm fun both => ⟨both.1, both.2, rfl⟩⟩
    | false => exact ⟨rfl, .inl rfl⟩

theorem trails_turn (beside : Beside w w' gone) (ready : w.Ready) (turn : Turn) (name : String) :
    (w'.turn turn).Trails (w.streams.get? name) (w'.streams.get? name) := by
  rcases beside.streams name with same | ⟨none, x, found, spent⟩
  · exact .inl same
  · exact .inr ⟨none, x, found, spent.turn (beside.ready ready) turn⟩

section
variable {calls : List (String × Call)} {streams : Names Watch}

/-- A turn by which nobody leaves the line, and which leaves the streams, in both worlds. Those who join the line do so
in both. -/
theorem after (beside : Beside w (w.beside calls streams) gone) (ready : w.Ready) {turn : Turn} {w₁ : World}
    (more : List (String × Call)) (there : (w.beside calls streams).turn turn = w₁.beside (calls ++ more) streams)
    (line : w₁.calls = w.calls ++ more) (left : w₁.streams = w.streams) :
    Beside w₁ ((w.beside calls streams).turn turn) gone where
  same := by rw [there]; rfl
  line := by
    rw [there, line]
    exact beside.line.append more
  streams := by
    rw [left]
    intro name
    have kept : ((w.beside calls streams).turn turn).streams = streams := by rw [there]; rfl
    rw [kept]
    exact beside.trails_turn ready turn name

/-- A turn in which someone else leaves the line, and may be put at its end. -/
theorem after_other (beside : Beside w (w.beside calls streams) gone) (ready : w.Ready) {turn : Turn} {w₁ : World}
    {place : Nat} (more : List (String × Call)) (other : gone ≠ some place)
    (there : (w.beside calls streams).turn turn = w₁.beside (calls.eraseIdx (closedUp gone place) ++ more) streams)
    (line : w₁.calls = w.calls.eraseIdx place ++ more) (left : w₁.streams = w.streams) :
    Beside w₁ ((w.beside calls streams).turn turn) (gone.map fun p => if place < p then p - 1 else p) where
  same := by rw [there]; rfl
  line := by
    rw [there, line]
    exact (beside.line.eraseIdx other).append more
  streams := by
    rw [left]
    intro name
    have kept : ((w.beside calls streams).turn turn).streams = streams := by rw [there]; rfl
    rw [kept]
    exact beside.trails_turn ready turn name

theorem turn_plain (beside : Beside w (w.beside calls streams) gone) (ready : w.Ready) (inRuntime : Bool)
    {command : Command} (plain : command.isPlain = true) :
    InStep w (w.beside calls streams) gone (.command inRuntime command) (.command inRuntime command) := by
  have step := step_beside w calls streams inRuntime plain
  obtain ⟨line, left⟩ := step_same w inRuntime plain
  refine ⟨beside.after ready [] ?_ ?_ left, ?_⟩
  · rw [List.append_nil]
    exact congrArg Prod.snd step
  · rw [List.append_nil]
    exact line
  · simp only [answer, step]
    exact .same _ _

theorem turn_makesCall (beside : Beside w (w.beside calls streams) gone) (ready : w.Ready) (inRuntime : Bool)
    {command : Command} (makes : command.makesCall = true) :
    InStep w (w.beside calls streams) gone (.command inRuntime command) (.command inRuntime command) := by
  obtain ⟨more, line, left, both⟩ := step_makesCall w inRuntime makes
  refine ⟨beside.after ready _ (congrArg Prod.snd (both calls streams)) line left, ?_⟩
  simp only [answer, both]
  exact .same _ _

theorem turn_cancel (beside : Beside w (w.beside calls streams) gone) (ready : w.Ready) (inRuntime : Bool)
    {name : String} (other : gone ≠ some (w.calls.findIdx (·.1 == name))) :
    InStep w (w.beside calls streams) (gone.map fun p => if w.calls.findIdx (·.1 == name) < p then p - 1 else p)
      (.command inRuntime (.cancel name)) (.command inRuntime (.cancel name)) := by
  obtain ⟨place, named⟩ := beside.line.findIdx name other
  have step := step_cancel w inRuntime name
  have step' := step_cancel (w.beside calls streams) inRuntime name
  rw [named, place] at step'
  have now : w.turn (.command inRuntime (.cancel name)) = _ := congrArg Prod.snd step
  have now' : (w.beside calls streams).turn (.command inRuntime (.cancel name)) = _ := congrArg Prod.snd step'
  have told : (w.beside calls streams).answer (.command inRuntime (.cancel name)) =
      w.answer (.command inRuntime (.cancel name)) := (congrArg Prod.fst step').trans (congrArg Prod.fst step).symm
  refine ⟨beside.after_other ready [] other ?_ ?_ ?_, ?_⟩
  · rw [List.append_nil, now', now]
    rfl
  · rw [List.append_nil, now]
    rfl
  · rw [now]
    rfl
  · rw [told]
    exact .same _ _

theorem turn_poll (beside : Beside w (w.beside calls streams) gone) (ready : w.Ready) (inRuntime : Bool) {place : Nat}
    (other : gone ≠ some place) :
    InStep w (w.beside calls streams) (gone.map fun p => if place < p then p - 1 else p)
      (.poll inRuntime place) (.poll inRuntime (closedUp gone place)) := by
  have same : (w.beside calls streams).calls[closedUp gone place]? = w.calls[place]? := beside.line.getElem? other
  cases there : w.calls[place]? with
  | none =>
    have missing := same.trans there
    have outside := List.getElem?_eq_none_iff.mp there
    have outside' : calls.length ≤ closedUp gone place := List.getElem?_eq_none_iff.mp missing
    have stays : w.turn (.poll inRuntime place) = w := by simp only [turn, there]
    have stays' : (w.beside calls streams).turn (.poll inRuntime (closedUp gone place)) = w.beside calls streams := by
      simp only [turn, missing]
    refine ⟨beside.after_other ready [] other ?_ ?_ ?_, ?_⟩
    · rw [stays', stays, List.append_nil, List.eraseIdx_of_length_le outside']
    · rw [stays, List.append_nil, List.eraseIdx_of_length_le outside]
    · rw [stays]
    · simp only [answer, there, missing]
      exact .same _ _
  | some pair =>
    obtain ⟨name, c⟩ := pair
    have there' := same.trans there
    have polled := World.turn_poll there inRuntime
    have polled' := World.turn_poll there' inRuntime
    rw [pollCall_dressed] at polled'
    refine ⟨beside.after_other ready (putBack name (w.pollCall inRuntime c).1) other ?_ ?_ ?_, ?_⟩
    · rw [polled', polled]
      rfl
    · rw [polled]
      rfl
    · rw [polled]
      exact ((unseeing_pollCall inRuntime c).keeps w).2.2
    · simp only [answer, there, there', pollCall_dressed]
      exact .same _ _

theorem turn_fly (beside : Beside w (w.beside calls streams) gone) (ready : w.Ready) (place : Nat) :
    InStep w (w.beside calls streams) gone (.fly place) (.fly place) := by
  have flown : (w.beside calls streams).turn (.fly place) = _ := congrArg Prod.snd (unseeing_fly place w _)
  obtain ⟨line, -, left⟩ := (unseeing_fly place).keeps w
  refine ⟨beside.after ready [] ?_ ?_ left, .same _ _⟩
  · rw [List.append_nil]
    exact flown
  · rw [List.append_nil]
    exact line

/-! ### Watches and streams -/

theorem stay {w' : World} (beside : Beside w w' gone) {turn turn' : Turn} (stays : w.turn turn = w)
    (stays' : w'.turn turn' = w') (told : w'.answer turn' = w.answer turn) : InStep w w' gone turn turn' where
  beside := by
    rw [stays, stays']
    exact beside
  agrees := by
    rw [told]
    exact .same _ _

theorem turn_changed (beside : Beside w (w.beside calls streams) gone) (ready : w.Ready) (inRuntime : Bool)
    (name : String) :
    InStep w (w.beside calls streams) gone (.command inRuntime (.changed name))
      (.command inRuntime (.changed name)) := by
  have same : (w.beside calls streams).watches = w.watches := rfl
  cases found : w.watches.get? name with
  | none =>
    have stays : w.turn (.command inRuntime (.changed name)) = w := by simp only [turn, step, found, withHandle]
    have stays' : (w.beside calls streams).turn (.command inRuntime (.changed name)) = w.beside calls streams := by
      simp only [turn, step, same, found, withHandle]
    exact beside.stay stays stays' (by simp only [answer, step, same, found, withHandle])
  | some x =>
    obtain ⟨rest, told⟩ := beside.pollWatch x
    have now : w.turn (.command inRuntime (.changed name)) =
        { w with watches := w.watches.put name (w.pollWatch x).2 } := by
      simp only [turn, step, found, withHandle]
    have now' : (w.beside calls streams).turn (.command inRuntime (.changed name)) =
        World.beside { w with watches := w.watches.put name (w.pollWatch x).2 } calls streams := by
      simp only [turn, step, same, found, withHandle, rest]
      rfl
    refine ⟨?_, ?_⟩
    · rw [now]
      refine beside.after ready [] ?_ ?_ rfl
      · rw [now', List.append_nil]
      · rw [List.append_nil]
    · simp only [answer, step, same, found, withHandle]
      rcases told with equal | ⟨waits, closed, unowned⟩
      · rw [equal]
        exact .same _ _
      · rw [waits, closed]
        exact .closed ⟨inRuntime, name, .inl ⟨rfl, found⟩⟩ (beside.not_listed unowned)

theorem turn_intoStream (beside : Beside w (w.beside calls streams) gone) (ready : w.Ready) (inRuntime : Bool)
    (watch name : String) :
    InStep w (w.beside calls streams) gone (.command inRuntime (.intoStream watch name))
      (.command inRuntime (.intoStream watch name)) := by
  have others := beside.trails_turn ready (.command inRuntime (.intoStream watch name))
  have same : (w.beside calls streams).watches = w.watches := rfl
  cases found : w.watches.get? watch with
  | none =>
    have stays : w.turn (.command inRuntime (.intoStream watch name)) = w := by
      simp only [turn, step, found, withHandle]
    have stays' : (w.beside calls streams).turn (.command inRuntime (.intoStream watch name)) =
        w.beside calls streams := by
      simp only [turn, step, same, found, withHandle]
    exact beside.stay stays stays' (by simp only [answer, step, same, found, withHandle])
  | some x =>
    have now : w.turn (.command inRuntime (.intoStream watch name)) =
        { w with watches := w.watches.erase watch, streams := w.streams.put name x } := by
      simp only [turn, step, found, withHandle]
    have now' : (w.beside calls streams).turn (.command inRuntime (.intoStream watch name)) =
        World.beside { w with watches := w.watches.erase watch } calls (streams.put name x) := by
      simp only [turn, step, same, found, withHandle]
      rfl
    refine ⟨⟨by rw [now', now]; rfl, by rw [now', now]; exact beside.line, ?_⟩, ?_⟩
    · intro other
      have left : (w.turn (.command inRuntime (.intoStream watch name))).streams = w.streams.put name x := by rw [now]
      have left' : ((w.beside calls streams).turn (.command inRuntime (.intoStream watch name))).streams =
          streams.put name x := by
        rw [now']
        rfl
      rw [left, left', Names.get?_put, Names.get?_put]
      by_cases here : other = name
      · rw [if_pos here, if_pos here]
        exact .inl rfl
      · rw [if_neg here, if_neg here]
        exact others other
    · simp only [answer, step, same, found, withHandle]
      exact .same _ _

theorem turn_next_there (beside : Beside w (w.beside calls streams) gone) (reached : system.Reached w)
    (inRuntime : Bool) {name : String} {x : Watch} (found : w.streams.get? name = some x)
    (there : (w.beside calls streams).streams.get? name = some x) :
    InStep w (w.beside calls streams) gone (.command inRuntime (.next name)) (.command inRuntime (.next name)) := by
  have ready := ready_of_reached reached
  have others := beside.trails_turn ready (.command inRuntime (.next name))
  have now : w.turn (.command inRuntime (.next name)) = w.beside w.calls _ :=
    congrArg Prod.snd (step_next found inRuntime)
  have now' : (w.beside calls streams).turn (.command inRuntime (.next name)) = w.beside calls _ :=
    congrArg Prod.snd (step_next there inRuntime)
  obtain ⟨rest, told⟩ := beside.pollWatch x
  refine ⟨⟨by rw [now', now]; rfl, by rw [now', now]; exact beside.line, ?_⟩, ?_⟩
  · intro other
    have left : (w.turn (.command inRuntime (.next name))).streams = afterNext w.streams name (w.pollWatch x) := by
      rw [now]
      rfl
    have left' : ((w.beside calls streams).turn (.command inRuntime (.next name))).streams =
        afterNext streams name ((w.beside calls streams).pollWatch x) := by
      rw [now']
      rfl
    rw [left, left']
    by_cases here : other = name
    · subst here
      rcases told with equal | ⟨waits, closed, unowned⟩
      · rw [show (w.beside calls streams).pollWatch x = w.pollWatch x from Prod.ext equal rest,
          get?_afterNext_self, get?_afterNext_self]
        exact .inl rfl
      · have done : (w.beside calls streams).Spent x := by
          have made := watch_made reached (List.mem_append_right w.watches.things (Names.mem_things_of_get? found))
          refine ⟨made, unowned, ?_⟩
          rw [World.pollWatch, unowned] at closed
          exact closed
        have spent := (done.polled (w.isOwned x.receiver.entry)).turn (beside.ready ready)
          (.command inRuntime (.next other))
        rw [get?_afterNext_self, get?_afterNext_self, waits, closed]
        exact .inr ⟨rfl, _, rfl, spent⟩
    · rw [get?_afterNext _ here, get?_afterNext _ here]
      exact others other
  · simp only [answer, step_next found, step_next there]
    rcases told with equal | ⟨waits, closed, unowned⟩
    · rw [equal]
      exact .same _ _
    · rw [waits, closed]
      exact .closed ⟨inRuntime, name, .inr ⟨rfl, found⟩⟩ (beside.not_listed unowned)

/-- A stream is polled that has ended already in the world without the load. -/
theorem turn_next_ended (beside : Beside w (w.beside calls streams) gone) (ready : w.Ready) (inRuntime : Bool)
    {name : String} {x : Watch} (found : w.streams.get? name = some x)
    (missing : (w.beside calls streams).streams.get? name = none) (spent : (w.beside calls streams).Spent x) :
    InStep w (w.beside calls streams) gone (.command inRuntime (.next name)) (.command inRuntime (.next name)) := by
  have others := beside.trails_turn ready (.command inRuntime (.next name))
  have now : w.turn (.command inRuntime (.next name)) = w.beside w.calls _ :=
    congrArg Prod.snd (step_next found inRuntime)
  have now' : (w.beside calls streams).turn (.command inRuntime (.next name)) = w.beside calls streams :=
    congrArg Prod.snd (step_next_none missing inRuntime)
  have waits : (w.pollWatch x).1 = .pending ∨ (w.pollWatch x).1 = .closed := by
    unfold World.pollWatch
    cases w.isOwned x.receiver.entry with
    | true => exact .inl (x.poll_closed w.registry spent.closed).1
    | false => exact .inr spent.closed
  have still := (spent.polled (w.isOwned x.receiver.entry)).turn (beside.ready ready)
    (.command inRuntime (.next name))
  refine ⟨⟨by rw [now', now]; rfl, by rw [now', now]; exact beside.line, ?_⟩, ?_⟩
  · intro other
    have left : (w.turn (.command inRuntime (.next name))).streams = afterNext w.streams name (w.pollWatch x) := by
      rw [now]
      rfl
    have left' : ((w.beside calls streams).turn (.command inRuntime (.next name))).streams = streams := by
      rw [now']
      rfl
    rw [left, left']
    by_cases here : other = name
    · subst here
      rw [show streams.get? other = none from missing, get?_afterNext_self]
      rcases waits with pending | closed
      · rw [pending]
        exact .inr ⟨rfl, _, rfl, still⟩
      · rw [closed]
        exact .inl rfl
    · rw [get?_afterNext _ here]
      exact others other
  · simp only [answer, step_next found, step_next_none missing]
    exact .ended found (beside.not_listed spent.unowned) waits

theorem turn_next (beside : Beside w (w.beside calls streams) gone) (reached : system.Reached w) (inRuntime : Bool)
    (name : String) :
    InStep w (w.beside calls streams) gone (.command inRuntime (.next name)) (.command inRuntime (.next name)) := by
  have ready := ready_of_reached reached
  cases found : w.streams.get? name with
  | none =>
    have missing : (w.beside calls streams).streams.get? name = none := by
      rcases beside.streams name with same | ⟨none, -⟩
      · exact same.trans found
      · exact none
    have now : w.turn (.command inRuntime (.next name)) = w := congrArg Prod.snd (step_next_none found inRuntime)
    have now' : (w.beside calls streams).turn (.command inRuntime (.next name)) = w.beside calls streams :=
      congrArg Prod.snd (step_next_none missing inRuntime)
    exact beside.stay now now' (by simp only [answer, step_next_none found, step_next_none missing])
  | some x =>
    rcases beside.streams name with same | ⟨missing, y, found', spent⟩
    · exact beside.turn_next_there reached inRuntime found (same.trans found)
    · rw [found] at found'
      cases found'
      exact beside.turn_next_ended ready inRuntime found missing spent

end

/-! ### Any turn -/

theorem load_there {place : Nat} (beside : Beside w w' (some place)) :
    place < w.calls.length ∧ w'.calls = w.calls.eraseIdx place ∧
      ∃ name c, w.calls[place]? = some (name, c) ∧ c.since = 0 := by
  have line := beside.line
  generalize w.calls = calls at line
  generalize w'.calls = calls' at line
  cases line with
  | without front load back any =>
    refine ⟨by simp, ?_, load.1, load.2, ?_, any⟩
    · rw [List.eraseIdx_append_of_length_le (Nat.le_refl _), Nat.sub_self, List.eraseIdx_cons_zero]
    · rw [List.getElem?_append_right (Nat.le_refl _), Nat.sub_self, List.getElem?_cons_zero]

/-- The load goes to the end of the line or leaves it, and nothing else is done. -/
theorem after_own {place : Nat} (beside : Beside w w' (some place)) {w₁ : World} (more : List (String × Call))
    (now : w₁ = w.beside (w.calls.eraseIdx place ++ more) w.streams)
    (rest : more = [] ∨ ∃ name c, more = [(name, c)] ∧ c.since = 0) :
    Beside w₁ w' (if w₁.calls.length = w.calls.length then some (w.calls.length - 1) else none) := by
  obtain ⟨inside, line, -⟩ := beside.load_there
  have fewer : (w.calls.eraseIdx place).length = w.calls.length - 1 := List.length_eraseIdx_of_lt inside
  subst now
  refine ⟨?_, ?_, beside.streams⟩
  · rw [beside.same]
    rfl
  · have counted : (w.beside (w.calls.eraseIdx place ++ more) w.streams).calls.length =
        w.calls.length - 1 + more.length := by
      change (w.calls.eraseIdx place ++ more).length = _
      rw [List.length_append, fewer]
    change Line (w.calls.eraseIdx place ++ more) w'.calls _
    rw [counted, line]
    rcases rest with rfl | ⟨name, c, rfl, any⟩
    · rw [List.append_nil, List.length_nil, if_neg (by omega)]
      exact .whole _
    · rw [List.length_singleton, if_pos (by omega), ← fewer]
      have last := Line.without (w.calls.eraseIdx place) (name, c) [] any
      rw [List.append_nil] at last
      exact last

theorem turn_own {place : Nat} (beside : Beside w w' (some place)) (ready : w.Ready) {turn : Turn}
    (own : w.taken? turn = some place) : Beside (w.turn turn) w'
      (if (w.turn turn).calls.length = w.calls.length then some (w.calls.length - 1) else none) := by
  obtain ⟨-, -, name, c, there, any⟩ := beside.load_there
  cases turn with
  | poll inRuntime q =>
    cases own
    rcases turn_poll_load ready there any inRuntime with ⟨rest, still, now⟩ | now
    · exact beside.after_own _ now (.inr ⟨name, rest, rfl, still⟩)
    · exact beside.after_own [] (by rw [List.append_nil]; exact now) (.inl rfl)
  | fly q => cases own
  | command inRuntime command =>
    cases command with
    | cancel called =>
      have first : w.calls.findIdx (·.1 == called) = place := Option.some.inj own
      have now : w.turn (.command inRuntime (.cancel called)) = _ := congrArg Prod.snd (step_cancel w inRuntime called)
      rw [first] at now
      exact beside.after_own [] (by rw [List.append_nil]; exact now) (.inl rfl)
    | _ => cases own

theorem turn_other (beside : Beside w w' gone) (reached : system.Reached w) (turn : Turn)
    (other : ∀ place, w.taken? turn = some place → gone ≠ some place) :
    ∃ turn', w.turnWithout gone turn = some turn' ∧ InStep w w' (w.placeAfter gone turn) turn turn' := by
  have ready := ready_of_reached reached
  have falls : ¬(gone.isSome = true ∧ w.taken? turn = gone) := by
    rintro ⟨there, own⟩
    cases gone with
    | none => cases there
    | some place => exact other place own rfl
  unfold turnWithout placeAfter
  rw [if_neg falls, if_neg falls]
  have same := beside.same
  rw [same] at beside ⊢
  generalize w'.calls = calls, w'.streams = streams at beside ⊢
  cases turn with
  | poll inRuntime place => exact ⟨_, rfl, beside.turn_poll ready inRuntime (other place rfl)⟩
  | fly place => exact ⟨_, rfl, beside.turn_fly ready place⟩
  | command inRuntime command =>
    refine ⟨_, rfl, ?_⟩
    cases command with
    | cancel name => exact beside.turn_cancel ready inRuntime (other _ rfl)
    | changed name => exact beside.turn_changed ready inRuntime name
    | intoStream watch name => exact beside.turn_intoStream ready inRuntime watch name
    | next name => exact beside.turn_next reached inRuntime name
    | load number name => exact beside.turn_makesCall ready inRuntime rfl
    | refetch number name => exact beside.turn_makesCall ready inRuntime rfl
    | _ => exact beside.turn_plain ready inRuntime rfl

/-- Side by side for one turn: a turn of the load falls out, any other has its like. -/
theorem turn (beside : Beside w w' gone) (reached : system.Reached w) (turn : Turn) :
    Beside (w.turn turn) (w'.turns (w.turnWithout gone turn).toList) (w.placeAfter gone turn) ∧
      ∀ turn', w.turnWithout gone turn = some turn' → Agrees w turn (w.answer turn) (w'.answer turn') := by
  by_cases own : gone.isSome = true ∧ w.taken? turn = gone
  · obtain ⟨place, rfl⟩ := Option.isSome_iff_exists.mp own.1
    have falls : w.turnWithout (some place) turn = none := if_pos own
    have stands : w.placeAfter (some place) turn = _ := if_pos own
    rw [falls, stands]
    exact ⟨beside.turn_own (ready_of_reached reached) own.2, fun turn' none => by cases none⟩
  · have other : ∀ place, w.taken? turn = some place → gone ≠ some place := by
      rintro place taken rfl
      exact own ⟨rfl, taken⟩
    obtain ⟨turn', like, inStep⟩ := beside.turn_other reached turn other
    rw [like]
    refine ⟨inStep.beside, ?_⟩
    rintro _ ⟨⟩
    exact inStep.agrees

theorem turns (beside : Beside w w' gone) (reached : system.Reached w) (turns : List Turn) :
    Beside (w.turns turns) (w'.turns (w.turnsWithout gone turns)) (w.placeAfterAll gone turns) := by
  induction turns generalizing w w' gone with
  | nil => exact beside
  | cons turn turns ih =>
    rw [turnsWithout, turns_append]
    exact ih (beside.turn reached turn).1 (reached.goes ⟨turn, rfl⟩)

end Beside

end World

end ChannelFeed
