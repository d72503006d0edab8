import ChannelFeed.Cache.Registry

/-!
# Receivers

A receiver follows the versions of a slot. It sees that there is a new one, not how many there were. When
nobody is left who could publish one, the receiver is closed; a version it has not seen is still shown.
-/

namespace ChannelFeed.Cache

structure Receiver where
  entry : EntryId
  seen : Nat
deriving DecidableEq, Repr

/-- What a receiver is told when it asks for a new version. -/
inductive News where
  | changed
  | closed
  | pending
deriving DecidableEq, Repr

namespace Receiver

variable {α : Type}

/-- A receiver that has seen the version of now. -/
def subscribe (r : Registry α) (entry : EntryId) : Receiver := ⟨entry, (r.cell entry).version⟩

/-- Whether there is a version that was not seen. -/
def isBehind (rx : Receiver) (r : Registry α) : Bool := (r.cell rx.entry).version != rx.seen

/-- The receiver that has seen the version of now. -/
def caughtUp (rx : Receiver) (r : Registry α) : Receiver := { rx with seen := (r.cell rx.entry).version }

/-- Asks for a new version. `isOwned` says whether someone is left who could publish one. -/
def poll (rx : Receiver) (r : Registry α) (isOwned : Bool) : News × Receiver :=
  if rx.isBehind r then (.changed, rx.caughtUp r)
  else if isOwned then (.pending, rx)
  else (.closed, rx)

end Receiver

/-- What a poll comes to: something is still awaited, or there is a result. -/
inductive Polled (ω α : Type) where
  | pending (rest : ω)
  | done (result : α)

/-- Someone waits until no fetch of a slot is on its way. Before the first look there is no receiver. -/
structure Wait where
  entry : EntryId
  receiver : Option Receiver
deriving DecidableEq, Repr

namespace Wait

variable {α : Type}

def start (entry : EntryId) : Wait := ⟨entry, none⟩

/-- Looks at the slot if it may have changed since the last look. The slot is the result if no fetch is on
its way. -/
def poll (w : Wait) (r : Registry α) : Polled Wait (Slot α) :=
  if w.receiver.all (·.isBehind r) then
    if (r.slot w.entry).isFetching then .pending { w with receiver := some (.subscribe r w.entry) }
    else .done (r.slot w.entry)
  else .pending w

theorem poll_pending {w rest : Wait} {r : Registry α} (waits : w.poll r = .pending rest) : rest.entry = w.entry := by
  unfold poll at waits
  split at waits
  · split at waits
    · cases waits
      rfl
    · cases waits
  · cases waits
    rfl

/-- The result is the slot as it is now, with no fetch on its way. -/
theorem poll_done {w : Wait} {r : Registry α} {slot : Slot α} (ended : w.poll r = .done slot) :
    slot = r.slot w.entry ∧ slot.isFetching = false := by
  unfold poll at ended
  split at ended
  · split at ended
    · cases ended
    · next idle =>
      cases ended
      exact ⟨rfl, Bool.eq_false_iff.mpr idle⟩
  · cases ended

end Wait

end ChannelFeed.Cache
