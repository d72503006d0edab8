import ChannelFeed.Cache.Receiver
import ChannelFeed.Feed.Basic

/-!
# Calls

A call waits for channels that were fetched at some generation of the slot or later. To load is to be
content with any; to refetch is to mark the slot stale and to want the generation this gives. A call goes
on by single accesses to its slot, between which others may use the slot too. It starts a fetch if it can,
waits until none is on its way, and starts another one if what it finds then is too old.
-/

namespace ChannelFeed

open Cache

/-- What a call does next. -/
inductive Call.Phase where
  | starting
  | waiting (wait : Wait)
  /-- Starts another fetch, having found a slot that is too old. -/
  | retrying (found : Slot (List Channel))
  /-- Looks whether someone else has started a fetch, since it could not itself. -/
  | checking (found : Slot (List Channel))

structure Call where
  feed : Feed
  entry : EntryId
  /-- The generation at which the fetch must have begun, or later. -/
  since : Nat
  phase : Call.Phase

namespace Call

/-- What one access comes to. -/
inductive Progress where
  | going (next : Call)
  | blocked (next : Call)
  | settled (state : ChannelState)

/-- A call for whatever is in the slot once no fetch is on its way. -/
def load (feed : Feed) (entry : EntryId) : Call := ⟨feed, entry, 0, .starting⟩

/-- A call for what is fetched at a generation or later. -/
def refetch (feed : Feed) (entry : EntryId) (since : Nat) : Call := ⟨feed, entry, since, .starting⟩

/-- The call as it waits, before its first look. -/
def awaiting (c : Call) : Call := { c with phase := .waiting (.start c.entry) }

/-- The right to fetch, for a caller who is able to. Nobody can fetch outside a runtime. -/
def claim? (inRuntime : Bool) (r : Registry (List Channel)) (entry : EntryId) :
    Option (Claim × Registry (List Channel)) :=
  if inRuntime then r.claim? entry else none

/-- One access of a call to its slot. If it takes the right to fetch, the claim is a result too. -/
def access (inRuntime : Bool) (c : Call) (r : Registry (List Channel)) :
    Progress × Option Claim × Registry (List Channel) :=
  match c.phase with
  | .starting =>
    match claim? inRuntime r c.entry with
    | some (claim, r) => (.going c.awaiting, some claim, r)
    | none => (.going c.awaiting, none, r)
  | .waiting wait =>
    match wait.poll r with
    | .pending wait => (.blocked { c with phase := .waiting wait }, none, r)
    | .done slot =>
      if c.since ≤ slot.settledGeneration then (.settled slot.state, none, r)
      else (.going { c with phase := .retrying slot }, none, r)
  | .retrying found =>
    match claim? inRuntime r c.entry with
    | some (claim, r) => (.going c.awaiting, some claim, r)
    | none => (.going { c with phase := .checking found }, none, r)
  | .checking found =>
    if (r.slot c.entry).isFetching then (.going c.awaiting, none, r) else (.settled found.state, none, r)

end Call

end ChannelFeed
