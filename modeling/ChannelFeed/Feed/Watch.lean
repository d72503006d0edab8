import ChannelFeed.Cache.Receiver
import ChannelFeed.Feed.Basic

/-!
# Watches

A watch reports each new state of the channels. Updates that leave the state as it was are passed over,
and so are states that came and went between two polls.
-/

namespace ChannelFeed

open Cache

structure Watch where
  receiver : Receiver
  last : ChannelState

namespace Watch

/-- What a watch reports. -/
inductive News where
  | changed (channels : List Channel)
  | closed
  | pending

/-- A watch that begins with the state of now. -/
def subscribe (r : Registry (List Channel)) (entry : EntryId) : Watch :=
  ⟨.subscribe r entry, (r.slot entry).state⟩

def state (w : Watch) (r : Registry (List Channel)) : ChannelState := (r.slot w.receiver.entry).state

/-- Asks for a state that differs from the last one reported. -/
def poll (w : Watch) (r : Registry (List Channel)) (isOwned : Bool) : News × Watch :=
  match w.receiver.poll r isOwned with
  | (.closed, receiver) => (.closed, { w with receiver })
  | (.pending, receiver) => (.pending, { w with receiver })
  | (.changed, receiver) =>
    if (w.state r).same w.last then
      (if isOwned then .pending else .closed, { w with receiver })
    else (.changed (w.state r).shown, ⟨receiver, w.state r⟩)

end Watch

end ChannelFeed
