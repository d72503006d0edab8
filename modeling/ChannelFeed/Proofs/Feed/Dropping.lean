import ChannelFeed.Proofs.Feed.SideBySide
import ChannelFeed.Proofs.Feed.Freshness

/-!
# Loads that are dropped

A load that has made its attempt to start a fetch only looks on. So the world goes on without it as it would have with
it: the fetch goes on, and everyone else is told the same. What the load leaves is that it owned its slot: a watch of a
slot to which no key leads may be closed earlier.
-/
namespace ChannelFeed

open Cache

namespace World

variable {w w' : World} {gone : Option Nat}

/-- The world without the call in a place. -/
def drop (w : World) (place : Nat) : World := w.beside (w.calls.eraseIdx place) w.streams

theorem beside_drop {place : Nat} {name : String} {c : Call} (there : w.calls[place]? = some (name, c))
    (any : c.since = 0) : Beside w (w.drop place) (some place) where
  same := rfl
  line := by
    obtain ⟨inside, here⟩ := List.getElem?_eq_some_iff.mp there
    have split : w.calls = w.calls.take place ++ (name, c) :: w.calls.drop (place + 1) := by
      rw [← here, ← List.drop_eq_getElem_cons inside, List.take_append_drop]
    have front : (w.calls.take place).length = place := List.length_take_of_le (Nat.le_of_lt inside)
    have line := Line.without (w.calls.take place) (name, c) (w.calls.drop (place + 1)) any
    rw [← split, ← List.eraseIdx_eq_take_drop_succ, front] at line
    exact line
  streams := fun _ => .inl rfl

theorem cancel_eq_drop (w : World) (inRuntime : Bool) (name : String) :
    w.turn (.command inRuntime (.cancel name)) = w.drop (w.calls.findIdx (·.1 == name)) :=
  congrArg Prod.snd (step_cancel w inRuntime name)

/-- A new load makes its attempt to start a fetch, and joins the line if it has to wait. -/
theorem begin_load {c : Call} (made : c.entry < w.registry.cells.length) (begun : c.phase = .starting)
    (any : c.since = 0) (inRuntime : Bool) (name : String) :
    ∃ more, (w.begin inRuntime name c).2 = (w.startFetch inRuntime c.feed c.entry).2.beside
        ((w.startFetch inRuntime c.feed c.entry).2.calls ++ more) (w.startFetch inRuntime c.feed c.entry).2.streams ∧
      (more = [] ∨ ∃ rest : Call, more = [(name, rest)] ∧ rest.since = 0) := by
  have polls := polls_starting inRuntime made begun
  have comes := polls.of_load (c := c.awaiting) any
  have there : c.awaiting.entry < (w.startFetch inRuntime c.feed c.entry).2.registry.cells.length := by
    rw [length_startFetch]
    exact made
  unfold begin pollCall
  generalize (w.startFetch inRuntime c.feed c.entry).2 = started at polls comes there ⊢
  generalize w.advance inRuntime c maxAccesses = result at polls comes ⊢
  split at comes
  · obtain ⟨rest, rfl⟩ := comes
    have since := (polls.waits there (any ▸ Nat.zero_le _)).2.2.1
    exact ⟨[(name, rest)], rfl, .inr ⟨rest, rfl, since.trans any⟩⟩
  · subst comes
    refine ⟨[], ?_, .inl rfl⟩
    rw [List.append_nil]
    rfl

/-- A load does what showing the channels does, and joins the line if it has to wait. -/
theorem turn_load (ready : w.Ready) (inRuntime : Bool) (number : Nat) (name : String) :
    ∃ more, w.turn (.command inRuntime (.load number name)) =
        (w.turn (.command inRuntime (.channels number))).beside (w.calls ++ more) w.streams ∧
      (w.turn (.command inRuntime (.channels number))).calls = w.calls ∧
      (w.turn (.command inRuntime (.channels number))).streams = w.streams ∧
      (more = [] ∨ ∃ c : Call, more = [(name, c)] ∧ c.since = 0) := by
  have plain := step_same w inRuntime (show (Command.channels number).isPlain = true from rfl)
  have line : (w.turn (.command inRuntime (.channels number))).calls = w.calls := plain.1
  have left : (w.turn (.command inRuntime (.channels number))).streams = w.streams := plain.2
  cases known : w.feeds[number]? with
  | none =>
    refine ⟨[], ?_, line, left, .inl rfl⟩
    simp only [turn, step, known, withHandle, List.append_nil]
    rfl
  | some feed =>
    obtain ⟨intact, made⟩ := ready.toIntact.entry feed
    obtain ⟨more, begun, rest⟩ := begin_load (c := .load feed (w.entry feed).1) made rfl rfl inRuntime name
    have shown : w.turn (.command inRuntime (.channels number)) =
        ((w.entry feed).2.startFetch inRuntime feed (w.entry feed).1).2 := by
      simp only [turn, step, known, withHandle, channels]
    refine ⟨more, ?_, line, left, rest⟩
    rw [← line, ← left, shown]
    simp only [turn, step, known, withHandle, load]
    exact begun

theorem beside_load (ready : w.Ready) (inRuntime : Bool) (number : Nat) (name : String) :
    Beside (w.turn (.command inRuntime (.load number name))) (w.turn (.command inRuntime (.channels number)))
      (if (w.turn (.command inRuntime (.load number name))).calls.length = w.calls.length then none
        else some w.calls.length) := by
  obtain ⟨more, now, line, left, rest⟩ := turn_load ready inRuntime number name
  rw [now]
  refine ⟨rfl, ?_, fun other => ?_⟩
  · rw [line]
    change Line (w.calls ++ more) w.calls (if (w.calls ++ more).length = w.calls.length then none else _)
    rcases rest with rfl | ⟨c, rfl, any⟩
    · rw [List.append_nil, if_pos rfl]
      exact .whole _
    · have last := Line.without w.calls (name, c) [] any
      rw [List.append_nil] at last
      rw [if_neg (by simp)]
      exact last
  · rw [left]
    exact .inl rfl

/-- The one world goes on as the other does, whatever turns follow: slots, requests and fetches are the same after any
of them, and everyone but the load is told the same in the next one. -/
structure GoesOnWithout (w w' : World) (gone : Option Nat) (later : List Turn) : Prop where
  slots : (w'.turns (w.turnsWithout gone later)).registry = (w.turns later).registry
  requests : (w'.turns (w.turnsWithout gone later)).network = (w.turns later).network
  flights : (w'.turns (w.turnsWithout gone later)).flights = (w.turns later).flights
  rest : Beside (w.turns later) (w'.turns (w.turnsWithout gone later)) (w.placeAfterAll gone later)
  told : ∀ turn turn', (w.turns later).turnWithout (w.placeAfterAll gone later) turn = some turn' →
    Agrees (w.turns later) turn ((w.turns later).answer turn)
      ((w'.turns (w.turnsWithout gone later)).answer turn')

theorem Beside.goesOnWithout (beside : Beside w w' gone) (reached : system.Reached w) (later : List Turn) :
    GoesOnWithout w w' gone later := by
  have rest := beside.turns reached later
  refine ⟨rest.registry, ?_, ?_, rest, ?_⟩
  · rw [rest.same]
    rfl
  · rw [rest.same]
    rfl
  · exact fun turn turn' like => (rest.turn (reached_turns reached later) turn).2 turn' like

end World

namespace Move

/-- A look that the call takes itself. -/
def isLook (m : Move) : Bool :=
  m.isOwn &&
    match m.access with
    | .read => true
    | _ => false

end Move

/-- What is shared is the same without the looks that a call takes. -/
theorem Among.run_without {s t : Shared (List Channel)} {c : Call} {moves : List Move} {p : Polled Call ChannelState}
    (among : Among s c moves t p) : s.run (Move.accesses (moves.filter (!·.isLook))) = some t := by
  have kept {m : Move} {past : List Move} {t u : Shared (List Channel)}
      (ran : s.run (Move.accesses (past.filter (!·.isLook))) = some t) (made : t.step m.access = some u) :
      s.run (Move.accesses ((m :: past).filter (!·.isLook))) = some u := by
    cases look : m.isLook with
    | true =>
      have reads : m.access = .read := by
        unfold Move.isLook at look
        cases access : m.access <;> simp_all
      rw [reads] at made
      rw [List.filter_cons_of_neg (by simp [look]), ran]
      exact made
    | false =>
      rw [List.filter_cons_of_pos (by simp [look])]
      exact Shared.run_cons.mpr ⟨_, ran, made⟩
  induction among with
  | start => rfl
  | other before made ih => exact kept ih made
  | own before made ih => exact kept ih made

/-- Where a load is: before its attempt to start a fetch, or on the look-out. -/
def Call.LooksOn (c : Call) (attempts : List (Access (List Channel))) : Prop :=
  c.since = 0 ∧ (c.phase = .starting ∧ attempts = [] ∨ ∃ wait, c.phase = .waiting wait)

theorem Among.attempts {s t : Shared (List Channel)} {c : Call} {moves : List Move} {p : Polled Call ChannelState}
    (among : Among s c moves t p) (any : c.since = 0) (begun : c.phase = .starting) :
    (Move.own (moves.filter (!·.isLook)) = [] ∨
      ∃ m : Shared (List Channel), Move.own (moves.filter (!·.isLook)) = [Call.ask m c.entry]) ∧
    ∀ d, p = .pending d → d.entry = c.entry ∧ d.LooksOn (Move.own (moves.filter (!·.isLook))) := by
  induction among with
  | start =>
    refine ⟨.inl rfl, ?_⟩
    rintro d ⟨⟩
    exact ⟨rfl, any, .inl ⟨begun, rfl⟩⟩
  | @other moves t u d a before made ih =>
    have same : Move.own ((⟨false, a⟩ :: moves).filter (!·.isLook)) = Move.own (moves.filter (!·.isLook)) := by
      simp [Move.own, Move.isLook]
    rw [same]
    exact ih
  | @own moves t u d before made ih =>
    obtain ⟨attempts, rest⟩ := ih
    obtain ⟨here, none, phase⟩ := rest d rfl
    rcases phase with ⟨starting, first⟩ | ⟨wait, waiting⟩
    · have asks : d.nextAccess t = Call.ask t c.entry := by
        rw [Call.nextAccess, starting, ← here]
      have own : Move.own ((⟨true, d.nextAccess t⟩ :: moves).filter (!·.isLook)) = [Call.ask t c.entry] := by
        have first' : Move.accesses ((moves.filter (!·.isLook)).filter (·.isOwn)) = [] := first
        have acts : (⟨true, Call.ask t c.entry⟩ : Move).isLook = false := by
          obtain ⟨h, r, taken, -⟩ | ⟨refused, -⟩ := Call.ask_cases t c.entry
          · rw [taken]
            rfl
          · rw [refused]
            rfl
        rw [asks, List.filter_cons_of_pos (by simp [acts]), Move.own, List.filter_cons_of_pos rfl, Move.accesses,
          List.map_cons, ← Move.accesses, first']
      have waits : (d.access true t.registry).1 = .going d.awaiting := by
        unfold Call.access
        rw [starting]
        dsimp only
        split <;> rfl
      rw [own, waits]
      refine ⟨.inr ⟨t, rfl⟩, ?_⟩
      rintro _ ⟨⟩
      exact ⟨here, none, .inr ⟨_, rfl⟩⟩
    · have looks : d.nextAccess t = .read := by rw [Call.nextAccess, waiting]
      have same : Move.own ((⟨true, d.nextAccess t⟩ :: moves).filter (!·.isLook)) =
          Move.own (moves.filter (!·.isLook)) := by
        rw [looks, List.filter_cons_of_neg (by simp [Move.isLook])]
      rw [same]
      refine ⟨attempts, ?_⟩
      intro e goes
      unfold Call.access at goes
      rw [waiting] at goes
      dsimp only at goes
      split at goes
      · cases goes
        exact ⟨here, none, .inr ⟨_, rfl⟩⟩
      · rw [none, if_pos (Nat.zero_le _)] at goes
        cases goes

/-- A fetch does not depend on the caller that asked for it. A load makes one attempt to start a fetch and only looks
after that, however the accesses of many threads are mixed, so that what is shared is the same without its looks. In a
world a load that waits may be dropped at any time, or the channels may be shown in its place: whatever turns follow,
slots, requests and fetches are the same after each of them, and everyone else is told the same. Only a watch of a slot to
which no key leads may be closed earlier. -/
theorem loads_can_be_dropped :
    (∀ {s t : Shared (List Channel)} {c : Call} {moves : List Move} {p : Polled Call ChannelState},
      Among s c moves t p → c.since = 0 → c.phase = .starting →
        s.run (Move.accesses (moves.filter (!·.isLook))) = some t ∧
          (Move.own (moves.filter (!·.isLook)) = [] ∨
            ∃ m : Shared (List Channel), Move.own (moves.filter (!·.isLook)) = [Call.ask m c.entry])) ∧
    ∀ (network : Http.Network) (caches : Nat) (feeds : List Feed) (past : List Turn),
      let w := (World.start network caches feeds).turns past
      (∀ place name c, w.calls[place]? = some (name, c) → c.since = 0 →
        (∀ later, w.GoesOnWithout (w.drop place) (some place) later) ∧
          ∀ inRuntime called, w.calls.findIdx (·.1 == called) = place →
            w.turn (.command inRuntime (.cancel called)) = w.drop place) ∧
      ∀ inRuntime number name,
        let loading := w.turn (.command inRuntime (.load number name))
        ∃ gone, (gone = none ∧ loading.calls = w.calls ∨
            gone = some w.calls.length ∧ ∃ c : Call, loading.calls = w.calls ++ [(name, c)] ∧ c.since = 0) ∧
          ∀ later, loading.GoesOnWithout (w.turn (.command inRuntime (.channels number))) gone later := by
  refine ⟨fun among any begun => ⟨among.run_without, (among.attempts any begun).1⟩, ?_⟩
  intro network caches feeds past
  have reached := World.reached_turns (World.reached_start network caches feeds) past
  generalize (World.start network caches feeds).turns past = w at reached ⊢
  refine ⟨?_, ?_⟩
  · intro place name c there any
    refine ⟨(World.beside_drop there any).goesOnWithout reached, ?_⟩
    rintro inRuntime called rfl
    exact World.cancel_eq_drop _ inRuntime called
  · intro inRuntime number name
    have ready := World.ready_of_reached reached
    have beside := World.beside_load ready inRuntime number name
    obtain ⟨more, now, line, -, rest⟩ := World.turn_load ready inRuntime number name
    have calls : (w.turn (.command inRuntime (.load number name))).calls = w.calls ++ more := by
      rw [now]
      rfl
    refine ⟨_, ?_, beside.goesOnWithout (reached.goes ⟨_, rfl⟩)⟩
    rw [calls]
    rcases rest with rfl | ⟨c, rfl, any⟩
    · exact .inl ⟨if_pos (by simp), List.append_nil _⟩
    · exact .inr ⟨if_neg (by simp), c, rfl, any⟩

/-- A load is dropped before its fetch has ended. The fetch ends as it would have ended, and its slot has a state. The
load of a thread has looked once at what is shared. -/
theorem fetched_after_drop :
    (∃ s : Shared (List Channel), s.run (Move.accesses (List.filter (!·.isLook)
      [⟨true, .read⟩, ⟨true, .claim ⟨0, ⟨0, 0⟩, false⟩⟩])) =
        some ⟨⟨[⟨⟨.pending, true, false, 0, 0⟩, 1⟩], [[(channelsKey, 0)]]⟩, [⟨0, ⟨0, 0⟩, false⟩], 1⟩) ∧
    let w := (World.start (.answering []) 1 [.onLocalhost .default]).turns [.command true (.load 0 "load")]
    w.turn (.command true (.cancel "load")) = w.drop 0 ∧
      ((w.drop 0).turn (.fly 0)).registry = (w.turn (.fly 0)).registry ∧
      (((w.drop 0).turn (.fly 0)).registry.slot 0).state.isPending = false := by
  constructor
  · let begun : Shared (List Channel) := ⟨⟨[.fresh], [[(channelsKey, 0)]]⟩, [], 0⟩
    have asked : Among begun (.load (.onLocalhost .default) 0) [⟨true, _⟩] _ _ := .own .start rfl
    have looked : Among begun (.load (.onLocalhost .default) 0) [⟨true, _⟩, ⟨true, _⟩] _ _ := .own asked rfl
    exact ⟨begun, (loads_can_be_dropped.1 looked rfl rfl).1⟩
  · have dropped := (loads_can_be_dropped.2 (.answering []) 1 [.onLocalhost .default]
      [.command true (.load 0 "load")]).1 0 "load" _ rfl rfl
    exact ⟨dropped.2 true "load" rfl, (dropped.1 [.fly 0]).slots, rfl⟩

end ChannelFeed
