import ChannelFeed.Feed.World

/-!
# Scheduling

Between two commands the world comes to rest: fetches run and calls are polled until nothing moves any
more. Calls are polled in the order in which they were made, and each sees the end of every fetch that was
started before it.
-/

namespace ChannelFeed

open Cache

/-- A call that has its result. -/
structure Completed where
  name : String
  result : Except Failure (List Channel)

namespace World

/-- What a round brings: whether anything moved, and the calls that got their result. -/
structure Moves where
  anything : Bool
  completed : List Completed

/-- Runs all fetches. The result says whether there was one to run. -/
def fly (w : World) : Bool × World := (w.hasRunnable, w.runFlights)

/-- Polls calls in turn and runs all fetches after each. Those that still wait are kept. -/
def pollCalls (w : World) : List (String × Call) → Moves × World
  | [] => (⟨false, []⟩, w)
  | (name, call) :: rest =>
    match w.pollCall true call with
    | (.pending call, w) =>
      let (moved, w) := fly { w with calls := w.calls ++ [(name, call)] }
      let (moves, w) := w.pollCalls rest
      (⟨moved || moves.anything, moves.completed⟩, w)
    | (.done result, w) =>
      let (_, w) := w.fly
      let (moves, w) := w.pollCalls rest
      (⟨true, ⟨name, result⟩ :: moves.completed⟩, w)

def round (w : World) : Moves × World :=
  let (moved, w) := w.fly
  let (moves, w) := pollCalls { w with calls := [] } w.calls
  (⟨moved || moves.anything, moves.completed⟩, w)

/-- Rounds until nothing moves, but at most so many. -/
def rounds (w : World) : Nat → List Completed × World
  | 0 => ([], w)
  | n + 1 =>
    let (moves, w) := w.round
    if moves.anything then
      let (later, w) := w.rounds n
      (moves.completed ++ later, w)
    else (moves.completed, w)

/-- Lets the world come to rest. A call that cannot end starts one fetch, after which it can. -/
def settle (w : World) : List Completed × World := w.rounds (2 * w.calls.length + 2)

end World

end ChannelFeed
