import ChannelFeed.Proofs.Feed.Unseeing

/-!
# Turns

A world goes on by turns: a command is carried out, a call is polled, or a fetch is run. How the turns are ordered
is for the scheduler to choose. The order in which a world comes to rest is one of many; what holds for every order
holds for it.
-/
namespace ChannelFeed

open Cache

/-- One turn. Calls and fetches are told by their place in line, and go to its end if they are not done. -/
inductive Turn where
  | command (inRuntime : Bool) (command : Command)
  | poll (inRuntime : Bool) (place : Nat)
  | fly (place : Nat)

/-- What is heard of a call that is polled. -/
def Cache.Polled.answer : Polled Call (Except Failure (List Channel)) → ChannelFeed.Answer
  | .pending _ => .pending
  | .done result => .result result

/-- The service at `http://localhost/`. -/
def BaseUrl.localhost : BaseUrl :=
  ⟨⟨"http".toList, some ⟨[], [], .name "localhost".toList, none⟩, false, .listed [[]], none, none⟩, rfl⟩

/-- A feed of the service at `http://localhost/`, without a limit. -/
def Feed.onLocalhost (options : Options) : Feed := ⟨⟨.localhost, none⟩, options, 0⟩

namespace World

/-- What a turn makes of a world. Nothing happens if there is nobody in the place. -/
def turn (w : World) : Turn → World
  | .command inRuntime command => (w.step inRuntime command).2
  | .poll inRuntime place =>
    match w.calls[place]? with
    | none => w
    | some (name, call) =>
      match pollCall { w with calls := w.calls.eraseIdx place } inRuntime call with
      | (.pending call, w) => { w with calls := w.calls ++ [(name, call)] }
      | (.done _, w) => w
  | .fly place =>
    match w.flights[place]? with
    | none => w
    | some f => runFlight { w with flights := w.flights.eraseIdx place } f

/-- What is heard of a turn: the answer to a command, or what a call that is polled comes to. -/
def answer (w : World) : Turn → Answer
  | .command inRuntime command => (w.step inRuntime command).1
  | .poll inRuntime place =>
    match w.calls[place]? with
    | none => .nothing
    | some (_, call) => (w.pollCall inRuntime call).1.answer
  | .fly _ => .nothing

/-- The call that is made or polled in a turn. -/
def caller? (w : World) : Turn → Option Call
  | .poll _ place => (w.calls[place]?).map Prod.snd
  | .command _ (.load number _) => (w.feeds[number]?).map fun feed => .load feed (w.entry feed).1
  | .command _ (.refetch number _) =>
    (w.feeds[number]?).map fun feed =>
      .refetch feed (w.entry feed).1 ((w.entry feed).2.registry.markStale (w.entry feed).1).1
  | _ => none

def turns (w : World) : List Turn → World
  | [] => w
  | turn :: rest => (w.turn turn).turns rest

theorem turns_append (w : World) (first rest : List Turn) : w.turns (first ++ rest) = (w.turns first).turns rest := by
  induction first generalizing w with
  | nil => rfl
  | cons turn first ih => exact ih (w.turn turn)

/-- Some turns make the one world of the other. -/
def TurnsInto (w w' : World) : Prop := ∃ turns, w.turns turns = w'

namespace TurnsInto

variable {w w' w'' : World}

theorem refl (w : World) : w.TurnsInto w := ⟨[], rfl⟩

theorem trans (first : w.TurnsInto w') (second : w'.TurnsInto w'') : w.TurnsInto w'' := by
  obtain ⟨early, rfl⟩ := first
  obtain ⟨late, rfl⟩ := second
  exact ⟨early ++ late, w.turns_append early late⟩

theorem of_turn (w : World) (turn : Turn) : w.TurnsInto (w.turn turn) := ⟨[turn], rfl⟩

end TurnsInto

/-- The world with other calls in line. -/
abbrev withCalls (w : World) (calls : List (String × Call)) : World := w.dressed ({ · with calls })

/-- A fetch that is run settles its slot when it is known what it brings, or else goes on. -/
theorem runFlight_cases (w : World) (f : Flight) :
    (∃ fetched, (f.advance w.isHolding w.network).1.fetched? = some fetched ∧ w.runFlight f =
      { w with
        network := (f.advance w.isHolding w.network).2
        registry := w.registry.settle f.claim (ChannelState.ofFetch fetched) }) ∨
    ((f.advance w.isHolding w.network).1.fetched? = none ∧ w.runFlight f =
      { w with
        network := (f.advance w.isHolding w.network).2
        flights := w.flights ++ [(f.advance w.isHolding w.network).1] }) := by
  unfold runFlight
  dsimp only
  cases known : (f.advance w.isHolding w.network).1.fetched? with
  | some fetched => exact .inl ⟨fetched, rfl, rfl⟩
  | none => exact .inr ⟨rfl, rfl⟩

theorem runFlight_withFlights (w : World) (f : Flight) (flights : List Flight) :
    runFlight { w with flights := flights ++ w.flights } f =
      { w.runFlight f with flights := flights ++ (w.runFlight f).flights } := by
  unfold runFlight
  dsimp only
  split
  · rfl
  · simp

theorem runFlights_withCalls (w : World) (calls : List (String × Call)) :
    (w.withCalls calls).runFlights = w.runFlights.withCalls calls := by
  have each : ∀ (flights : List Flight) (w : World),
      flights.foldl runFlight (w.withCalls calls) = (flights.foldl runFlight w).withCalls calls := by
    intro flights
    induction flights with
    | nil =>
      intro w
      rfl
    | cons f flights ih =>
      intro w
      have flown : (w.withCalls calls).runFlight f = (w.runFlight f).withCalls calls :=
        congrArg Prod.snd (unseeing_runFlight f w _)
      rw [List.foldl_cons, List.foldl_cons, flown, ih]
  exact each w.flights { w with flights := [] }

/-- What is heard of a new call is what it comes to when it is polled. -/
theorem answer_begin (w : World) (inRuntime : Bool) (name : String) (c : Call) :
    (w.begin inRuntime name c).1 = (w.pollCall inRuntime c).1.answer := by
  unfold begin
  obtain ⟨polled, w'⟩ := w.pollCall inRuntime c
  cases polled <;> rfl

theorem unseeing_fly (place : Nat) : Unseeing fun w => ((), w.turn (.fly place)) := by
  intro w change
  have same : (w.dressed change).flights = w.flights := rfl
  simp only [turn, same]
  cases w.flights[place]? with
  | none => rfl
  | some f => exact unseeing_runFlight f { w with flights := w.flights.eraseIdx place } change

theorem calls_pollCall (w : World) (inRuntime : Bool) (c : Call) : (w.pollCall inRuntime c).2.calls = w.calls :=
  ((unseeing_pollCall inRuntime c).keeps w).1

theorem calls_runFlight (w : World) (f : Flight) : (w.runFlight f).calls = w.calls :=
  ((unseeing_runFlight f).keeps w).1

theorem calls_runFlights (w : World) : w.runFlights.calls = w.calls := by
  have same : w.runFlights = _ := runFlights_withCalls w w.calls
  rw [same]
  rfl

theorem foldl_runFlight_turns (flights : List Flight) (w : World) :
    TurnsInto { w with flights := flights ++ w.flights } (flights.foldl runFlight w) := by
  induction flights generalizing w with
  | nil => exact .refl w
  | cons f flights ih =>
    refine (TurnsInto.of_turn _ (.fly 0)).trans ?_
    have now : turn { w with flights := f :: flights ++ w.flights } (.fly 0) =
        { w.runFlight f with flights := flights ++ (w.runFlight f).flights } := runFlight_withFlights w f flights
    rw [now]
    exact ih (w.runFlight f)

theorem runFlights_turns (w : World) : w.TurnsInto w.runFlights := by
  have all := foldl_runFlight_turns w.flights { w with flights := [] }
  rw [List.append_nil] at all
  exact all

/-- Who is put at the end of the line after a poll: the call, if it has to wait. -/
def putBack (name : String) : Polled Call (Except Failure (List Channel)) → List (String × Call)
  | .pending rest => [(name, rest)]
  | .done _ => []

theorem begin_eq (w : World) (inRuntime : Bool) (name : String) (c : Call) :
    (w.begin inRuntime name c).2 =
      (w.pollCall inRuntime c).2.withCalls (w.calls ++ putBack name (w.pollCall inRuntime c).1) := by
  rw [← calls_pollCall w inRuntime c]
  unfold begin
  generalize w.pollCall inRuntime c = result
  obtain ⟨polled, w'⟩ := result
  cases polled with
  | pending rest => rfl
  | done given =>
    rw [putBack, List.append_nil]
    rfl

theorem turn_poll {w : World} {place : Nat} {name : String} {c : Call} (there : w.calls[place]? = some (name, c))
    (inRuntime : Bool) :
    w.turn (.poll inRuntime place) =
      (w.pollCall inRuntime c).2.withCalls (w.calls.eraseIdx place ++ putBack name (w.pollCall inRuntime c).1) := by
  have apart : pollCall { w with calls := w.calls.eraseIdx place } inRuntime c =
      ((w.pollCall inRuntime c).1, (w.pollCall inRuntime c).2.withCalls (w.calls.eraseIdx place)) :=
    pollCall_dressed w ({ · with calls := w.calls.eraseIdx place }) inRuntime c
  simp only [turn, there, apart]
  generalize w.pollCall inRuntime c = result
  obtain ⟨polled, w'⟩ := result
  cases polled with
  | pending rest => rfl
  | done given =>
    rw [putBack, List.append_nil]

/-- The first call in line is polled and, if it waits, goes to the end of the line. -/
theorem turn_poll_first (w : World) (name : String) (call : Call) (calls : List (String × Call)) :
    (w.withCalls ((name, call) :: calls)).turn (.poll true 0) =
      (w.pollCall true call).2.withCalls (calls ++ putBack name (w.pollCall true call).1) := by
  rw [turn_poll (List.getElem?_cons_zero ..), pollCall_dressed]
  rfl

theorem pollCalls_turns (calls : List (String × Call)) (w : World) :
    TurnsInto (w.withCalls (calls ++ w.calls)) (w.pollCalls calls).2 := by
  induction calls generalizing w with
  | nil => exact .refl w
  | cons first calls ih =>
    obtain ⟨name, call⟩ := first
    have polled := TurnsInto.of_turn (w.withCalls ((name, call) :: (calls ++ w.calls))) (.poll true 0)
    have others := calls_pollCall w true call
    rw [turn_poll_first, ← others] at polled
    rw [pollCalls, ← others]
    generalize w.pollCall true call = result at polled ⊢
    obtain ⟨progress, w'⟩ := result
    cases progress with
    | pending rest =>
      refine polled.trans ((runFlights_turns _).trans ?_)
      change TurnsInto _ ((w'.withCalls (w'.calls ++ [(name, rest)])).runFlights.pollCalls calls).2
      rw [runFlights_withCalls, runFlights_withCalls, List.append_assoc]
      exact ih (w'.runFlights.withCalls (w'.calls ++ [(name, rest)]))
    | done answer =>
      rw [putBack, List.append_nil] at polled
      refine polled.trans ((runFlights_turns _).trans ?_)
      have later := ih w'.runFlights
      rw [calls_runFlights] at later
      rw [runFlights_withCalls]
      exact later

theorem round_turns (w : World) : w.TurnsInto w.round.2 := by
  have polled := pollCalls_turns w.runFlights.calls (w.runFlights.withCalls [])
  have whole : (w.runFlights.withCalls []).withCalls (w.runFlights.calls ++ []) = w.runFlights := by
    rw [List.append_nil]
    rfl
  exact (runFlights_turns w).trans (whole ▸ polled)

theorem rounds_turns (w : World) (n : Nat) : w.TurnsInto (w.rounds n).2 := by
  induction n generalizing w with
  | zero => exact .refl w
  | succ n ih =>
    refine (round_turns w).trans ?_
    simp only [rounds]
    split
    · exact ih w.round.2
    · exact .refl _

/-- Whatever a run of commands comes to, with the world at rest after each, some turns come to. -/
theorem run_turns (w : World) (commands : List (Bool × Command)) : w.TurnsInto (w.run commands).2 := by
  induction commands generalizing w with
  | nil => exact .refl w
  | cons first commands ih =>
    obtain ⟨inRuntime, command⟩ := first
    have carried : w.TurnsInto (w.step inRuntime command).2 := .of_turn w (.command inRuntime command)
    have rested := carried.trans (rounds_turns _ (2 * (w.step inRuntime command).2.calls.length + 2))
    exact rested.trans (ih _)

end World

end ChannelFeed
