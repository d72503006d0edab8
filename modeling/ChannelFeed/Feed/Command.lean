import ChannelFeed.Feed.Schedule

/-!
# Commands

What can be asked of a world, and the answers. A command carried out outside a runtime cannot start a
fetch; all else it does as inside.
-/

namespace ChannelFeed

open Cache Http

inductive Command where
  | setReplies (replies : List Reply)
  | hold
  | unhold
  | release
  | restart
  | channels (feed : Nat)
  | load (feed : Nat) (name : String)
  | refetch (feed : Nat) (name : String)
  | cancel (call : String)
  | state (feed : Nat)
  | invalidate (feed : Nat)
  | notify (feed : Nat) (trigger : Trigger)
  | options (feed : Nat)
  | subscribe (feed : Nat) (name : String)
  | current (watch : String)
  | watchState (watch : String)
  | changed (watch : String)
  | intoStream (watch name : String)
  | next (stream : String)
  | cacheEntry (cache : Nat) (key : String)
  | cacheInvalidate (cache : Nat) (key : String)
  | cacheRemove (cache : Nat) (key : String)
  | cacheClear (cache : Nat)
  | cacheSize (cache : Nat)
  | claim (cache : Nat) (name : String)
  | settle (claim : String) (state : ChannelState)
  | dropClaim (claim : String)
  /-- Keeps the slot of a key at hand, whatever becomes of the key. -/
  | keep (cache : Nat) (key name : String)
  | look (entry : String)
  | mark (entry : String)
  | claimKept (entry name : String)
  | wait (entry name : String)
  | pollWait (wait : String)
  | dropWait (wait : String)
  | letGo (entry : String)

inductive Answer where
  | nothing
  | flag (b : Bool)
  | channels (channels : List Channel)
  | result (result : Except Failure (List Channel))
  | pending
  | state (state : ChannelState)
  | options (options : Options)
  | news (news : Watch.News)
  | slot (slot : Slot (List Channel))
  | size (n : Nat)
  | generation (n : Nat)
  /-- The command uses a name that leads to nothing. -/
  | noHandle

namespace World

def withHandle {β : Type} (w : World) (handle : Option β) (f : β → Answer × World) : Answer × World :=
  match handle with
  | some x => f x
  | none => (.noHandle, w)

def giveUp (w : World) (name : String) : World :=
  match w.claims.get? name with
  | some claim => { w with registry := w.registry.release claim, claims := w.claims.erase name }
  | none => w

/-- Polls a new call. It is kept if it has to wait. -/
def begin (w : World) (inRuntime : Bool) (name : String) (call : Call) : Answer × World :=
  match w.pollCall inRuntime call with
  | (.pending call, w) => (.pending, { w with calls := w.calls ++ [(name, call)] })
  | (.done result, w) => (.result result, w)

/-- The channels as they are known now. A fetch is started if one is needed. -/
def channels (w : World) (inRuntime : Bool) (feed : Feed) : List Channel × World :=
  let (entry, w) := w.entry feed
  let (_, w) := w.startFetch inRuntime feed entry
  (ChannelState.shown (w.registry.slot entry).state, w)

/-- Waits for the channels, and fetches them if they are needed. -/
def load (w : World) (inRuntime : Bool) (feed : Feed) (name : String) : Answer × World :=
  let (entry, w) := w.entry feed
  w.begin inRuntime name (.load feed entry)

/-- Asks for the channels anew and waits for what is fetched from now on. -/
def refetch (w : World) (inRuntime : Bool) (feed : Feed) (name : String) : Answer × World :=
  let (entry, w) := w.entry feed
  let (generation, registry) := w.registry.markStale entry
  begin { w with registry } inRuntime name (.refetch feed entry generation)

def state (w : World) (feed : Feed) : ChannelState :=
  match w.registry.get? feed.cache channelsKey with
  | some entry => (w.registry.slot entry).state
  | none => .pending

/-- Marks the channels stale for a reason from outside, if the feed heeds it and something is known that
can be out of date. The result says whether a fetch was started. -/
def notify (w : World) (inRuntime : Bool) (feed : Feed) (trigger : Trigger) : Bool × World :=
  if !feed.options.allows trigger then (false, w)
  else
    match w.registry.get? feed.cache channelsKey with
    | none => (false, w)
    | some entry =>
      if (w.registry.slot entry).state.isPending then (false, w)
      else startFetch { w with registry := (w.registry.markStale entry).2 } inRuntime feed entry

/-- Makes a watch of the channels. A fetch is started if one is needed. -/
def subscribe (w : World) (inRuntime : Bool) (feed : Feed) (name : String) : World :=
  let (entry, w) := w.entry feed
  let watch := Watch.subscribe w.registry entry
  let (_, w) := w.startFetch inRuntime feed entry
  { w with watches := w.watches.put name watch }

def pollWatch (w : World) (watch : Watch) : Watch.News × Watch :=
  watch.poll w.registry (w.isOwned watch.receiver.entry)

/-- Takes a claim on a slot by hand. The result says whether that was possible. -/
def claimEntry (w : World) (entry : EntryId) (name : String) : Bool × World :=
  match w.registry.claim? entry with
  | none => (false, w)
  | some (claim, registry) =>
    let w := giveUp { w with registry } name
    (true, { w with claims := w.claims.put name claim })

def claim (w : World) (cache : Nat) (name : String) : Bool × World :=
  let (entry, registry) := w.registry.entry cache channelsKey
  claimEntry { w with registry } entry name

/-- Polls a wait that is in hands under a name, or is to be if it goes on. Otherwise the others remain. -/
def pollWait (w : World) (name : String) (wait : Wait) (others : Names Wait) : Answer × World :=
  match wait.poll w.registry with
  | .done slot => (.slot slot, { w with waits := others })
  | .pending wait => (.pending, { w with waits := w.waits.put name wait })

def step (w : World) (inRuntime : Bool) : Command → Answer × World
  | .setReplies replies => (.nothing, { w with network := { w.network with replies } })
  | .hold => (.nothing, { w with isHolding := true })
  | .unhold => (.nothing, { w with isHolding := false })
  | .release =>
    let (released, w) := w.release
    (.flag released, w)
  | .restart => (.nothing, w.restart)
  | .channels feed =>
    w.withHandle w.feeds[feed]? fun feed =>
      let (channels, w) := w.channels inRuntime feed
      (.channels channels, w)
  | .load feed name => w.withHandle w.feeds[feed]? fun feed => w.load inRuntime feed name
  | .refetch feed name => w.withHandle w.feeds[feed]? fun feed => w.refetch inRuntime feed name
  | .cancel call =>
    w.withHandle (w.calls.lookup call) fun _ =>
      (.nothing, { w with calls := w.calls.eraseP (·.1 == call) })
  | .state feed => w.withHandle w.feeds[feed]? fun feed => (.state (w.state feed), w)
  | .invalidate feed =>
    w.withHandle w.feeds[feed]? fun feed =>
      let (known, registry) := w.registry.invalidate feed.cache channelsKey
      (.flag known, { w with registry })
  | .notify feed trigger =>
    w.withHandle w.feeds[feed]? fun feed =>
      let (started, w) := w.notify inRuntime feed trigger
      (.flag started, w)
  | .options feed => w.withHandle w.feeds[feed]? fun feed => (.options feed.options, w)
  | .subscribe feed name =>
    w.withHandle w.feeds[feed]? fun feed => (.nothing, w.subscribe inRuntime feed name)
  | .current watch =>
    w.withHandle (w.watches.get? watch) fun watch => (.channels (watch.state w.registry).shown, w)
  | .watchState watch =>
    w.withHandle (w.watches.get? watch) fun watch => (.state (watch.state w.registry), w)
  | .changed watch =>
    w.withHandle (w.watches.get? watch) fun x =>
      let (news, x) := w.pollWatch x
      (.news news, { w with watches := w.watches.put watch x })
  | .intoStream watch name =>
    w.withHandle (w.watches.get? watch) fun x =>
      (.nothing, { w with watches := w.watches.erase watch, streams := w.streams.put name x })
  | .next stream =>
    w.withHandle (w.streams.get? stream) fun x =>
      match w.pollWatch x with
      | (.closed, _) => (.news .closed, { w with streams := w.streams.erase stream })
      | (news, x) => (.news news, { w with streams := w.streams.put stream x })
  | .cacheEntry cache key =>
    let (entry, registry) := w.registry.entry cache key
    (.slot (registry.slot entry), { w with registry })
  | .cacheInvalidate cache key =>
    let (known, registry) := w.registry.invalidate cache key
    (.flag known, { w with registry })
  | .cacheRemove cache key =>
    let (known, registry) := w.registry.remove cache key
    (.flag known, { w with registry })
  | .cacheClear cache => (.nothing, { w with registry := w.registry.clear cache })
  | .cacheSize cache => (.size (w.registry.size cache), w)
  | .claim cache name =>
    let (claimed, w) := w.claim cache name
    (.flag claimed, w)
  | .settle claim state =>
    w.withHandle (w.claims.get? claim) fun c =>
      (.nothing, { w with registry := w.registry.settle c state, claims := w.claims.erase claim })
  | .dropClaim claim => w.withHandle (w.claims.get? claim) fun _ => (.nothing, w.giveUp claim)
  | .keep cache key name =>
    let (entry, registry) := w.registry.entry cache key
    (.slot (registry.slot entry), { w with registry, entries := w.entries.put name entry })
  | .look entry => w.withHandle (w.entries.get? entry) fun entry => (.slot (w.registry.slot entry), w)
  | .mark entry =>
    w.withHandle (w.entries.get? entry) fun entry =>
      let (generation, registry) := w.registry.markStale entry
      (.generation generation, { w with registry })
  | .claimKept entry name =>
    w.withHandle (w.entries.get? entry) fun entry =>
      let (claimed, w) := w.claimEntry entry name
      (.flag claimed, w)
  | .wait entry name =>
    w.withHandle (w.entries.get? entry) fun entry => w.pollWait name (.start entry) w.waits
  | .pollWait wait => w.withHandle (w.waits.get? wait) fun x => w.pollWait wait x (w.waits.erase wait)
  | .dropWait wait =>
    w.withHandle (w.waits.get? wait) fun _ => (.nothing, { w with waits := w.waits.erase wait })
  | .letGo entry =>
    w.withHandle (w.entries.get? entry) fun _ => (.nothing, { w with entries := w.entries.erase entry })

/-- What is seen after a command, when the world has come to rest. -/
structure Report where
  answer : Answer
  completed : List Completed
  /-- The slots of the channels, one for each cache that has one. -/
  slots : List (Option (Slot (List Channel)))
  arrived : Nat

def slots (w : World) : List (Option (Slot (List Channel))) :=
  w.registry.caches.map fun d => (d.get? channelsKey).map w.registry.slot

/-- Carries out a command and lets the world come to rest. -/
def perform (w : World) (inRuntime : Bool) (command : Command) : Report × World :=
  let (answer, w) := w.step inRuntime command
  let (completed, w) := w.settle
  (⟨answer, completed, w.slots, w.network.arrived.length⟩, w)

def run (w : World) : List (Bool × Command) → List Report × World
  | [] => ([], w)
  | (inRuntime, command) :: rest =>
    let (report, w) := w.perform inRuntime command
    let (reports, w) := w.run rest
    (report :: reports, w)

end World

end ChannelFeed
