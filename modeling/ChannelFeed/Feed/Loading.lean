import ChannelFeed.Feed.Command

/-!
# Loading once

Reading the channels of a service with nothing else going on.
-/

namespace ChannelFeed

open Http

/-- Loads the channels through a cache of their own and waits for them. The load ends when its fetch has
ended, if it does, and is then the only one that did. -/
def Feed.loadAlone (feed : Feed) (net : Network) : Option (Except Failure (List Channel)) × Network :=
  let feed := { feed with cache := 0 }
  match (World.start net 1 [feed]).perform true (.load 0 "") with
  | (⟨.result result, _, _, _⟩, w) => (some result, w.network)
  | (⟨_, completed, _, _⟩, w) => (completed.head?.map (·.result), w.network)

/-- Reads the channels of a service once, without a limit. A failed request reads as no channels. -/
def getChannels (library : Library) (baseUrl : String) (net : Network) :
    Option (Except Failure (List Channel)) × Network :=
  match Client.make library baseUrl none with
  | .error failure => (some (.error failure), net)
  | .ok client => Feed.loadAlone ⟨client, .default, 0⟩ net

end ChannelFeed
