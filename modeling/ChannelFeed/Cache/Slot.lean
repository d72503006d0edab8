/-!
# Slots

A slot holds the last result of a fetch and two flags: whether a fetch is on its way, and whether the
result is out of date. Each time it goes out of date because someone asked for it, the generation of the
slot grows by one. A fetch remembers the generation it began at, so that a result that was already on its
way when the slot was marked stale does not pass for a fresh one.
-/

namespace ChannelFeed.Cache

/-- What is known of a fetched value. -/
inductive FetchState (α : Type) where
  | pending
  | ready (value : α)
  /-- The last fetch failed; its failure is kept as text. -/
  | failed (message : String)
deriving DecidableEq, Repr

namespace FetchState

variable {α : Type}

def isPending : FetchState α → Bool
  | .pending => true
  | _ => false

def value? : FetchState α → Option α
  | .ready value => some value
  | _ => none

end FetchState

structure Slot (α : Type) where
  state : FetchState α
  isFetching : Bool
  isStale : Bool
  /-- How often the slot was marked stale. -/
  generation : Nat
  /-- The generation at which the fetch behind the state began. -/
  settledGeneration : Nat
deriving DecidableEq, Repr

namespace Slot

variable {α : Type}

def fresh : Slot α := ⟨.pending, false, false, 0, 0⟩

/-- Whether a fetch may begin: nothing is known or it is out of date, and no fetch is on its way. -/
def canClaim (s : Slot α) : Bool := !s.isFetching && (s.state.isPending || s.isStale)

theorem isFetching_of_canClaim {s : Slot α} (can : s.canClaim = true) : s.isFetching = false := by
  rw [canClaim, Bool.and_eq_true, Bool.not_eq_true'] at can
  exact can.1

def claimed (s : Slot α) : Slot α := { s with isFetching := true }

def markedStale (s : Slot α) : Slot α := { s with generation := s.generation + 1, isStale := true }

/-- A fetch ends that began at a generation. The slot stays stale if it was marked so since. -/
def settled (s : Slot α) (generation : Nat) (state : FetchState α) : Slot α where
  state := state
  isFetching := false
  isStale := s.generation != generation
  generation := s.generation
  settledGeneration := generation

/-- A fetch is given up. The next access fetches again. -/
def released (s : Slot α) : Slot α := { s with isFetching := false, isStale := true }

end Slot

end ChannelFeed.Cache
