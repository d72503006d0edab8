import ChannelFeed.Channel.Basic
import ChannelFeed.Failure

/-!
# Selecting a channel

A channel is addressed by its name or by the id of its user. The name is looked at first.
-/

namespace ChannelFeed

def findByName (channels : List Channel) (name : String) : Option Channel :=
  channels.find? (·.name = name)

def findByUserId (channels : List Channel) (userId : String) : Option Channel :=
  channels.find? (·.userId = userId)

/-- Narrows a list to the channel picked by name or, without a name, by user id. With neither the list
stays as it is. -/
def select (channels : List Channel) (name userId : Option String) : Except Failure (List Channel) :=
  match name, userId with
  | some name, _ =>
    match findByName channels name with
    | some c => .ok [c]
    | none => .error (.channelNotFound ("named " ++ name))
  | none, some userId =>
    match findByUserId channels userId with
    | some c => .ok [c]
    | none => .error (.channelNotFound ("with user id " ++ userId))
  | none, none => .ok channels

end ChannelFeed
