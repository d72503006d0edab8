import ChannelFeed.Feed.Call
import ChannelFeed.Feed.Watch
import ChannelFeed.Names

/-!
# The world of a run

Everything that the feeds of a run share: the network, the caches, the fetches on their way, the calls
that wait, the watches, and the claims, slots and waits that someone has in hands without a feed. A fetch
belongs to nobody but itself: it holds its claim and settles the slot it was started for, whatever becomes
of the caller. What is done has an order but takes no time: only the limit of a request is counted, and what is
logged is left out.
-/

namespace ChannelFeed

open Cache Http

/-- A fetch on its way. -/
structure Flight where
  claim : Claim
  endpoint : Url
  exchange : Exchange

namespace Flight

/-- A fetch of the channels of a feed, before its first request. -/
def start (feed : Feed) (claim : Claim) : Flight :=
  ⟨claim, feed.client.base.channels, .start feed.client.base.channels feed.client.limit⟩

def advance (f : Flight) (held : Bool) (net : Network) : Flight × Network :=
  let (exchange, net) := f.exchange.advance held net
  ({ f with exchange }, net)

def fetched? (f : Flight) : Option (Except RequestFailure (List Channel)) :=
  match f.exchange with
  | .ended outcome => channelsOf f.endpoint outcome
  | _ => none

end Flight

structure World where
  network : Network
  /-- Whether requests that arrive from now on are kept waiting for their reply. -/
  isHolding : Bool
  registry : Registry (List Channel)
  feeds : List Feed
  flights : List Flight
  /-- The calls that wait, in the order in which they were made. -/
  calls : List (String × Call)
  watches : Names Watch
  streams : Names Watch
  claims : Names Claim
  /-- The slots that someone has in hands, whatever their keys lead to by now. -/
  entries : Names EntryId
  waits : Names Wait

namespace World

/-- A world in which nothing has happened. -/
def start (network : Network) (caches : Nat) (feeds : List Feed) : World :=
  ⟨network, false, .empty caches, feeds, [], [], [], [], [], [], []⟩

/-- Whether someone has the slot itself in hands, or a wait for it. -/
def isKept (w : World) (entry : EntryId) : Bool :=
  w.entries.things.contains entry || w.waits.things.any (·.entry == entry)

/-- Whether anyone is left who could publish a version of the slot: a cache, whoever keeps it, a claim, a fetch
or a call. -/
def isOwned (w : World) (entry : EntryId) : Bool :=
  w.registry.isListed entry || w.isKept entry || w.claims.things.any (·.entry == entry) ||
    w.flights.any (·.claim.entry == entry) || w.calls.any (·.2.entry == entry)

/-- The slot of a feed, which is made if there is none. -/
def entry (w : World) (feed : Feed) : EntryId × World :=
  let (entry, registry) := w.registry.entry feed.cache channelsKey
  (entry, { w with registry })

/-- Starts the fetch for a claim, if there is one. -/
def launch (w : World) (feed : Feed) : Option Claim → World
  | some claim => { w with flights := w.flights ++ [.start feed claim] }
  | none => w

/-- Starts a fetch unless one is on its way or none is needed. The result says whether one was started. -/
def startFetch (w : World) (inRuntime : Bool) (feed : Feed) (entry : EntryId) : Bool × World :=
  match Call.claim? inRuntime w.registry entry with
  | some (claim, registry) => (true, launch { w with registry } feed (some claim))
  | none => (false, w)

/-- Takes a fetch to its end, unless its request is kept waiting or waits for ever, and settles its slot. -/
def runFlight (w : World) (f : Flight) : World :=
  let (f, network) := f.advance w.isHolding w.network
  match f.fetched? with
  | some fetched => { w with network, registry := w.registry.settle f.claim (ChannelState.ofFetch fetched) }
  | none => { w with network, flights := w.flights ++ [f] }

def runFlights (w : World) : World := w.flights.foldl runFlight { w with flights := [] }

def hasRunnable (w : World) : Bool := w.flights.any (·.exchange.isDue)

/-- The fetch whose request has been kept waiting longest. -/
def oldestHeld? (w : World) : Option Nat := (w.flights.filterMap (·.exchange.ticket?)).min?

/-- Lets the reply come to the request that has been kept waiting longest. -/
def release (w : World) : Bool × World :=
  match w.oldestHeld? with
  | none => (false, w)
  | some ticket =>
    (true, { w with
      flights := w.flights.map fun f =>
        if f.exchange.ticket? = some ticket then { f with exchange := f.exchange.release } else f })

/-- Drops all fetches. Their claims are given up. -/
def restart (w : World) : World :=
  { w with registry := w.flights.foldl (fun r f => r.release f.claim) w.registry, flights := [] }

/-- How many accesses to its slot a call makes at most before it waits or ends. -/
def maxAccesses : Nat := 5

/-- Lets a call go on by so many accesses, unless it has to wait. -/
def advance (w : World) (inRuntime : Bool) (c : Call) : Nat → Polled Call ChannelState × World
  | 0 => (.pending c, w)
  | n + 1 =>
    let (progress, claim, registry) := c.access inRuntime w.registry
    let w := launch { w with registry } c.feed claim
    match progress with
    | .going next => w.advance inRuntime next n
    | .blocked next => (.pending next, w)
    | .settled state => (.done state, w)

/-- Lets a call go on until it has to wait or has its result. -/
def pollCall (w : World) (inRuntime : Bool) (c : Call) :
    Polled Call (Except Failure (List Channel)) × World :=
  match w.advance inRuntime c maxAccesses with
  | (.pending c, w) => (.pending c, w)
  | (.done state, w) => (.done (c.feed.options.policy.resolve state), w)

end World

end ChannelFeed
