import ChannelFeed.Feed.Loading
import ChannelFeed.Proofs.Feed.Refetching
import ChannelFeed.Proofs.Http.Exchanges

/-!
# Loading through a cache

A load that finds nothing in its cache, with nothing else going on, comes to the same as asking the service: it sends
the requests of one fetch, however long they are kept waiting, and is given what the fetch brings. That stays in the
cache, be it a list or a failure, and whoever asks later is given the same without another request. Main statement:
`cached_load_is_one_fetch`.
-/
namespace ChannelFeed

open Cache Http

/-- What a caller who waits is given of what was fetched. -/
def FailurePolicy.present (policy : FailurePolicy) :
    Except RequestFailure (List Channel) → Except Failure (List Channel)
  | .ok channels => .ok channels
  | .error failure =>
    match policy with
    | .surface => .error (.fetch failure.message)
    | .conceal => .ok []

theorem FailurePolicy.resolve_ofFetch (policy : FailurePolicy) (fetched : Except RequestFailure (List Channel)) :
    policy.resolve (ChannelState.ofFetch fetched) = policy.present fetched := by
  cases fetched with
  | ok channels => rfl
  | error failure => cases policy <;> rfl

/-- The exchange by which a client fetches the channels, before its first request. -/
def Client.fetching (client : Client) : Exchange := .start client.base.channels client.limit

/-- It is known what a fetch brings when its exchange has ended and nothing is waited for for ever. -/
theorem Flight.fetched?_eq_some {f : Flight} {fetched : Except RequestFailure (List Channel)}
    (known : f.fetched? = some fetched) :
    ∃ outcome, f.exchange = .ended outcome ∧ channelsOf f.endpoint outcome = some fetched := by
  obtain ⟨claim, endpoint, exchange⟩ := f
  cases exchange with
  | ended outcome => exact ⟨outcome, rfl, known⟩
  | due | held => cases known

/-- A turn in which nothing is asked for: things only go on, or requests are kept waiting or let go. -/
inductive Turn.IsQuiet : Turn → Prop where
  | poll (inRuntime : Bool) (place : Nat) : IsQuiet (.poll inRuntime place)
  | fly (place : Nat) : IsQuiet (.fly place)
  | hold (inRuntime : Bool) : IsQuiet (.command inRuntime .hold)
  | unhold (inRuntime : Bool) : IsQuiet (.command inRuntime .unhold)
  | release (inRuntime : Bool) : IsQuiet (.command inRuntime .release)

namespace World

variable {w u : World} {feed : Feed} {number : Nat} {name : String} {calls : List (String × Call)}

/-! ## The course of a load -/

/-- The slots when a load has made its own and has taken the right to fetch. -/
def claimedFor (w : World) (feed : Feed) : Registry (List Channel) :=
  (w.registry.getOrAdd feed.cache channelsKey).2.update w.registry.cells.length Slot.claimed

/-- The world in which the fetch of a load is on its way. -/
def underway (w : World) (feed : Feed) (isHolding : Bool) (network : Network) (exchange : Exchange)
    (calls : List (String × Call)) : World :=
  { w with
    network, isHolding, calls
    registry := w.claimedFor feed
    flights := [⟨⟨w.registry.cells.length, 0⟩, feed.client.base.channels, exchange⟩] }

/-- The world in which the fetch of a load has ended with what it brought. -/
def landed (w : World) (feed : Feed) (isHolding : Bool) (fetched : Except RequestFailure (List Channel))
    (calls : List (String × Call)) : World :=
  { w with
    isHolding, calls
    network := (feed.client.fetchChannels w.network).2
    registry := (w.claimedFor feed).settle ⟨w.registry.cells.length, 0⟩ (ChannelState.ofFetch fetched)
    flights := [] }

/-- What is left to be done is an exchange as it goes without a cache. -/
def Rests (w : World) (feed : Feed) (network : Network) (exchange : Exchange) : Prop :=
  exchange.rest network = w.network.exchange feed.client.base.channels feed.client.limit

/-- The worlds that a load goes through if nobody else does anything. -/
inductive Course (w : World) (feed : Feed) (name : String) : World → Prop where
  | underway {isHolding : Bool} {network : Network} {exchange : Exchange} {c : Call}
    (rests : w.Rests feed network exchange) (waits : c.IsFor feed w.registry.cells.length 0) :
    Course w feed name (w.underway feed isHolding network exchange [(name, c)])
  | landed {isHolding : Bool} {fetched : Except RequestFailure (List Channel)} {c : Call}
    (brought : (feed.client.fetchChannels w.network).1 = some fetched)
    (waits : c.IsFor feed w.registry.cells.length 0) :
    Course w feed name (w.landed feed isHolding fetched [(name, c)])
  | told {isHolding : Bool} {fetched : Except RequestFailure (List Channel)}
    (brought : (feed.client.fetchChannels w.network).1 = some fetched) :
    Course w feed name (w.landed feed isHolding fetched [])

theorem getOrAdd_missing {cache : Nat} {key : String} (missing : w.registry.get? cache key = none) :
    (w.registry.getOrAdd cache key).1 = w.registry.cells.length ∧
      w.registry.cells.length < (w.registry.getOrAdd cache key).2.cells.length := by
  rw [Registry.getOrAdd, missing]
  exact ⟨rfl, by simp⟩

theorem slot_new : (w.registry.getOrAdd feed.cache channelsKey).2.slot w.registry.cells.length = .fresh := by
  rw [Registry.slot_getOrAdd, Registry.slot, Registry.cell, List.getElem?_eq_none (Nat.le_refl _)]
  rfl

theorem slot_claimedFor (missing : w.registry.get? feed.cache channelsKey = none) :
    (w.claimedFor feed).slot w.registry.cells.length = ⟨.pending, true, false, 0, 0⟩ := by
  rw [claimedFor, Registry.slot_update _ _ _ (getOrAdd_missing missing).2, if_pos rfl, slot_new]
  rfl

theorem slot_landed (missing : w.registry.get? feed.cache channelsKey = none) (isHolding : Bool)
    (fetched : Except RequestFailure (List Channel)) :
    (w.landed feed isHolding fetched calls).registry.slot w.registry.cells.length =
      ⟨ChannelState.ofFetch fetched, false, false, 0, 0⟩ := by
  have made : w.registry.cells.length < (w.claimedFor feed).cells.length := by
    rw [claimedFor, Registry.length_update]
    exact (getOrAdd_missing missing).2
  rw [landed, Registry.settle, Registry.slot_update _ _ _ made, if_pos rfl, slot_claimedFor missing]
  rfl

theorem step_load_missing (name : String) (known : w.feeds[number]? = some feed)
    (missing : w.registry.get? feed.cache channelsKey = none) (flights : w.flights = []) (alone : w.calls = []) :
    ∃ c : Call, c.IsFor feed w.registry.cells.length 0 ∧ w.step true (.load number name) =
      (.pending, w.underway feed w.isHolding w.network feed.client.fetching [(name, c)]) := by
  have looked : w.entry feed =
      (w.registry.cells.length, { w with registry := (w.registry.getOrAdd feed.cache channelsKey).2 }) := by
    rw [entry_eq, (getOrAdd_missing missing).1]
  have granted : Call.claim? true (w.registry.getOrAdd feed.cache channelsKey).2 w.registry.cells.length =
      some (⟨w.registry.cells.length, 0⟩, w.claimedFor feed) := by
    refine Call.claim?_eq_some.mpr ⟨rfl, Registry.claim?_eq_some.mpr ⟨?_, ?_, rfl⟩⟩
    · rw [slot_new]; rfl
    · rw [slot_new]; rfl
  have polls := polls_starting (w := { w with registry := (w.registry.getOrAdd feed.cache channelsKey).2 })
    (c := .load feed w.registry.cells.length) true (getOrAdd_missing missing).2 rfl
  have started : (startFetch { w with registry := (w.registry.getOrAdd feed.cache channelsKey).2 } true feed
      w.registry.cells.length).2 = w.underway feed w.isHolding w.network feed.client.fetching [] := by
    simp only [startFetch, granted, launch, flights, underway, ← alone]
    rfl
  change Polls (startFetch _ true feed w.registry.cells.length).2 _ _ _ at polls
  rw [started] at polls
  have busy : ((w.underway feed w.isHolding w.network feed.client.fetching []).registry.slot
      w.registry.cells.length).isFetching = true := by
    change ((w.claimedFor feed).slot w.registry.cells.length).isFetching = true
    rw [slot_claimedFor missing]
  simp only [step, known, withHandle, load, looked, begin, pollCall]
  generalize advance _ true (.load feed w.registry.cells.length) maxAccesses = result at polls ⊢
  cases polls with
  | @blocked rest _ here =>
    exact ⟨_, ⟨rfl, rfl, rfl⟩, rfl⟩
  | ended idle => exact absurd busy (Bool.eq_false_iff.mp idle)
  | renewed idle => exact absurd busy (Bool.eq_false_iff.mp idle)
  | outdated idle => exact absurd busy (Bool.eq_false_iff.mp idle)

/-- A load in line that is polled waits while its slot is being fetched, and else is given what is in it. -/
theorem Ready.pollCall_load (ready : u.Ready) {c : Call} {entry : EntryId} (there : (name, c) ∈ u.calls)
    (waits : c.IsFor feed entry 0) (inRuntime : Bool) :
    if (u.registry.slot entry).isFetching then
      ∃ rest : Call, rest.IsFor feed entry 0 ∧ u.pollCall inRuntime c = (.pending rest, u)
    else u.pollCall inRuntime c = (.done (feed.options.policy.resolve (u.registry.slot entry).state), u) := by
  obtain ⟨rfl, rfl, any⟩ := waits
  have made := ready.calls _ there
  have stands := ready.waits _ there
  have polls := polls_waiting inRuntime made stands
  have comes := polls.of_load any
  unfold pollCall
  split
  · next busy =>
    rw [if_pos busy] at comes
    obtain ⟨rest, same⟩ := comes
    rw [same] at polls
    obtain ⟨feed, entry, since, -⟩ := polls.waits made stands.since
    exact ⟨rest, ⟨feed, entry, since.trans any⟩, by rw [same]⟩
  · next idle =>
    rw [if_neg idle] at comes
    rw [comes]

theorem Rests.advance {network : Network} {exchange : Exchange} (rests : w.Rests feed network exchange)
    (isHolding : Bool) :
    w.Rests feed (exchange.advance isHolding network).2 (exchange.advance isHolding network).1 :=
  (Exchange.rest_advance isHolding network exchange).trans rests

/-- What the fetch has brought when its exchange has ended is what the service is asked for alone. -/
theorem Rests.fetchChannels_eq {network : Network} {outcome : Outcome} (rests : w.Rests feed network (.ended outcome)) :
    feed.client.fetchChannels w.network = (channelsOf feed.client.base.channels outcome, network) := by
  rw [Client.fetchChannels, ← rests]
  rfl

/-- The fetch is run: it ends with what the service is asked for alone, or goes on towards that. -/
theorem Rests.turn_fly {network : Network} {exchange : Exchange} (rests : w.Rests feed network exchange)
    (isHolding : Bool) :
    (∃ fetched, (feed.client.fetchChannels w.network).1 = some fetched ∧
      (w.underway feed isHolding network exchange calls).turn (.fly 0) = w.landed feed isHolding fetched calls) ∨
    ((Flight.fetched? ⟨⟨w.registry.cells.length, 0⟩, feed.client.base.channels,
        (exchange.advance isHolding network).1⟩) = none ∧
      (w.underway feed isHolding network exchange calls).turn (.fly 0) =
        w.underway feed isHolding (exchange.advance isHolding network).2 (exchange.advance isHolding network).1
          calls) := by
  obtain ⟨fetched, known, same⟩ | ⟨unknown, same⟩ :=
    runFlight_cases { w.underway feed isHolding network exchange calls with flights := [] }
      ⟨⟨w.registry.cells.length, 0⟩, feed.client.base.channels, exchange⟩
  · obtain ⟨outcome, ended, brought⟩ := Flight.fetched?_eq_some known
    change (exchange.advance isHolding network).1 = .ended outcome at ended
    have goes := rests.advance isHolding
    rw [ended] at goes
    refine .inl ⟨fetched, (congrArg Prod.fst goes.fetchChannels_eq).trans brought, same.trans ?_⟩
    rw [landed, goes.fetchChannels_eq]
    rfl
  · exact .inr ⟨unknown, same⟩

/-- If the exchange of the fetch comes to its end, then either it is known what is fetched, or it never will be. -/
theorem Rests.lands {network after : Network} {exchange : Exchange} {outcome : Outcome}
    (rests : w.Rests feed network exchange) (ended : exchange.advance false network = (.ended outcome, after))
    (calls : List (String × Call)) :
    (∃ fetched, (feed.client.fetchChannels w.network).1 = some fetched ∧
      (w.underway feed false network exchange calls).turn (.fly 0) = w.landed feed false fetched calls) ∨
    ((feed.client.fetchChannels w.network).1 = none ∧ (w.underway feed false network exchange calls).turn (.fly 0) =
      w.underway feed false (feed.client.fetchChannels w.network).2 (.ended outcome) calls) := by
  have goes := rests.advance false
  rw [ended] at goes
  refine (rests.turn_fly false).imp_right fun ⟨unknown, waitsOn⟩ => ?_
  rw [ended] at unknown waitsOn
  rw [goes.fetchChannels_eq]
  exact ⟨unknown, waitsOn⟩

/-- The only request that may be kept waiting is that of the fetch. -/
theorem release_underway (isHolding : Bool) (network : Network) (exchange : Exchange) (inRuntime : Bool) :
    (w.underway feed isHolding network exchange calls).turn (.command inRuntime .release) =
      w.underway feed isHolding network exchange.release calls := by
  cases exchange with
  | held ticket url limit redirects reply =>
    have oldest : (w.underway feed isHolding network (.held ticket url limit redirects reply) calls).oldestHeld? =
      some ticket := rfl
    simp only [World.turn, step, release, oldest]
    simp [underway, Exchange.ticket?]
  | _ => rfl

theorem pollCall_underway {isHolding : Bool} {network : Network} {exchange : Exchange} {c : Call}
    (ready : (w.underway feed isHolding network exchange [(name, c)]).Ready)
    (missing : w.registry.get? feed.cache channelsKey = none) (waits : c.IsFor feed w.registry.cells.length 0)
    (inRuntime : Bool) :
    ∃ later : Call, later.IsFor feed w.registry.cells.length 0 ∧
      (w.underway feed isHolding network exchange [(name, c)]).pollCall inRuntime c =
        (.pending later, w.underway feed isHolding network exchange [(name, c)]) := by
  have polled := ready.pollCall_load (List.mem_singleton.mpr rfl) waits inRuntime
  have slot : (w.underway feed isHolding network exchange [(name, c)]).registry.slot w.registry.cells.length =
    ⟨.pending, true, false, 0, 0⟩ := slot_claimedFor missing
  rw [slot, if_pos rfl] at polled
  exact polled

theorem pollCall_landed {isHolding : Bool} {fetched : Except RequestFailure (List Channel)} {c : Call}
    (ready : (w.landed feed isHolding fetched [(name, c)]).Ready)
    (missing : w.registry.get? feed.cache channelsKey = none) (waits : c.IsFor feed w.registry.cells.length 0)
    (inRuntime : Bool) :
    (w.landed feed isHolding fetched [(name, c)]).pollCall inRuntime c =
      (.done (feed.options.policy.present fetched), w.landed feed isHolding fetched [(name, c)]) := by
  have polled := ready.pollCall_load (List.mem_singleton.mpr rfl) waits inRuntime
  rw [slot_landed missing, if_neg Bool.false_ne_true, FailurePolicy.resolve_ofFetch] at polled
  exact polled

theorem Course.turn (course : Course w feed name u) (ready : u.Ready)
    (missing : w.registry.get? feed.cache channelsKey = none) {turn : Turn} (quiet : turn.IsQuiet) :
    Course w feed name (u.turn turn) := by
  cases course with
  | told brought =>
    cases quiet with
    | poll | fly | hold | unhold | release => exact .told brought
  | @landed isHolding fetched c brought waits =>
    cases quiet with
    | poll inRuntime place =>
      cases place with
      | zero =>
        have there : (w.landed feed isHolding fetched [(name, c)]).calls[0]? = some (name, c) := rfl
        rw [turn_poll there inRuntime, pollCall_landed ready missing waits]
        exact .told brought
      | succ place => exact .landed brought waits
    | fly | hold | unhold | release => exact .landed brought waits
  | @underway isHolding network exchange c rests waits =>
    cases quiet with
    | poll inRuntime place =>
      cases place with
      | zero =>
        obtain ⟨later, waits, same⟩ := pollCall_underway ready missing waits inRuntime
        have there : (w.underway feed isHolding network exchange [(name, c)]).calls[0]? = some (name, c) := rfl
        rw [turn_poll there inRuntime, same]
        exact .underway rests waits
      | succ place => exact .underway rests waits
    | fly place =>
      cases place with
      | zero =>
        obtain ⟨fetched, brought, lands⟩ | ⟨-, goes⟩ := rests.turn_fly isHolding
        · exact lands ▸ .landed brought waits
        · exact goes ▸ .underway (rests.advance isHolding) waits
      | succ place => exact .underway rests waits
    | hold | unhold => exact .underway rests waits
    | release inRuntime =>
      rw [release_underway]
      exact .underway ((exchange.rest_release network).trans rests) waits

theorem Course.turns (course : Course w feed name u) (ready : u.Ready)
    (missing : w.registry.get? feed.cache channelsKey = none) {turns : List Turn}
    (quiet : ∀ turn ∈ turns, turn.IsQuiet) :
    Course w feed name (u.turns turns) := by
  induction turns generalizing u with
  | nil => exact course
  | cons turn turns ih =>
    obtain ⟨first, rest⟩ := List.forall_mem_cons.mp quiet
    exact ih (course.turn ready missing first) (ready.turn turn) rest

/-! ## How a load stands -/

/-- How a load stands while nobody else does anything. Until its fetch has ended it waits, and the requests that have
arrived are the first of those of a fetch without a cache. Then they are all of them, and the load is given what the
fetch brought. -/
inductive Loads (w : World) (feed : Feed) (u : World) : Prop where
  | waits (flies : u.flights.length = 1)
    (requests : u.network.arrived <+: (feed.client.fetchChannels w.network).2.arrived)
    (slot : u.registry.slot w.registry.cells.length = ⟨.pending, true, false, 0, 0⟩)
    (answer : ∀ inRuntime, u.answer (.poll inRuntime 0) = .pending)
  | ended {fetched : Except RequestFailure (List Channel)}
    (brought : (feed.client.fetchChannels w.network).1 = some fetched) (landed : u.flights = [])
    (network : u.network = (feed.client.fetchChannels w.network).2)
    (slot : u.registry.slot w.registry.cells.length = ⟨ChannelState.ofFetch fetched, false, false, 0, 0⟩)
    (answer : u.calls = [] ∨ ∀ inRuntime,
      u.answer (.poll inRuntime 0) = .result (feed.options.policy.present fetched))

theorem Course.loads (course : Course w feed name u) (ready : u.Ready)
    (missing : w.registry.get? feed.cache channelsKey = none) : w.Loads feed u := by
  cases course with
  | told brought => exact .ended brought rfl rfl (slot_landed missing _ _) (.inl rfl)
  | @landed isHolding fetched c brought waits =>
    refine .ended brought rfl rfl (slot_landed missing _ _) (.inr fun inRuntime => ?_)
    change (World.pollCall _ inRuntime c).1.answer = _
    rw [pollCall_landed ready missing waits]
    rfl
  | @underway isHolding network exchange c rests waits =>
    refine .waits rfl ?_ (slot_claimedFor missing) fun inRuntime => ?_
    · have arrived := exchange.arrived_rest network
      rw [rests] at arrived
      exact arrived
    · obtain ⟨later, -, same⟩ := pollCall_underway ready missing waits inRuntime
      change (World.pollCall _ inRuntime c).1.answer = _
      rw [same]
      rfl

/-- However long requests were kept waiting, all of them can be sent, and the load can be brought to its end, if a fetch
without a cache comes to one. -/
theorem Course.ends (course : Course w feed name u) :
    (u.turns [.command true .unhold, .command true .release, .fly 0]).network =
        (feed.client.fetchChannels w.network).2 ∧
      ((feed.client.fetchChannels w.network).1 ≠ none →
        (u.turns [.command true .unhold, .command true .release, .fly 0]).flights = []) := by
  cases course with
  | told => exact ⟨rfl, fun _ => rfl⟩
  | landed => exact ⟨rfl, fun _ => rfl⟩
  | @underway isHolding network exchange c rests waits =>
    let freed := w.underway feed false network exchange [(name, c)]
    change ((freed.turn (.command true .release)).turn (.fly 0)).network = _ ∧
      (_ → ((freed.turn (.command true .release)).turn (.fly 0)).flights = [])
    obtain ⟨outcome, after, ended⟩ := exchange.advance_release network
    rw [release_underway]
    obtain ⟨fetched, brought, lands⟩ | ⟨never, waitsOn⟩ :=
      Rests.lands ((exchange.rest_release network).trans rests) ended [(name, c)]
    · rw [lands]
      exact ⟨rfl, fun _ => rfl⟩
    · rw [waitsOn]
      exact ⟨rfl, fun comes => absurd never comes⟩

/-! ## With the world coming to rest -/

/-- What is reported of a load that is done. -/
def loaded (feed : Feed) (name : String) (fetched : Except RequestFailure (List Channel)) : Completed :=
  ⟨name, feed.options.policy.present fetched⟩

theorem round_landed (isHolding : Bool) (fetched : Except RequestFailure (List Channel)) :
    (w.landed feed isHolding fetched []).round = (⟨false, []⟩, w.landed feed isHolding fetched []) := rfl

theorem pollCalls_landed {fetched : Except RequestFailure (List Channel)} {c : Call}
    (waits : c.IsFor feed w.registry.cells.length 0) (ready : (w.landed feed false fetched [(name, c)]).Ready)
    (missing : w.registry.get? feed.cache channelsKey = none) :
    (w.landed feed false fetched []).pollCalls [(name, c)] =
      (⟨true, [loaded feed name fetched]⟩, w.landed feed false fetched []) := by
  have told := pollCall_dressed (w.landed feed false fetched [(name, c)]) ({ · with calls := [] }) true c
  rw [pollCall_landed ready missing waits] at told
  change (w.landed feed false fetched []).pollCall true c = (_, w.landed feed false fetched []) at told
  rw [pollCalls, told]
  rfl

/-- The world in which the fetch of a load has been asked for in vain. -/
def forlorn (w : World) (feed : Feed) (outcome : Outcome) (calls : List (String × Call)) : World :=
  w.underway feed false (feed.client.fetchChannels w.network).2 (.ended outcome) calls

theorem fly_forlorn {outcome : Outcome} (never : (feed.client.fetchChannels w.network).1 = none)
    (rests : w.Rests feed (feed.client.fetchChannels w.network).2 (.ended outcome)) (calls : List (String × Call)) :
    (w.forlorn feed outcome calls).fly = (false, w.forlorn feed outcome calls) := by
  obtain ⟨fetched, brought, -⟩ | ⟨-, same⟩ := rests.lands rfl calls
  · cases never.symm.trans brought
  · exact congrArg (Prod.mk false) same

/-- The only call is polled, stays in line, and the fetches are run. -/
theorem pollCalls_pending {u v x : World} {moved : Bool} {c later : Call} (told : u.pollCall true c = (.pending later, v))
    (flown : fly { v with calls := v.calls ++ [(name, later)] } = (moved, x)) :
    u.pollCalls [(name, c)] = (⟨moved || false, []⟩, x) := by
  simp only [pollCalls, told, flown]

theorem pollCalls_forlorn {outcome : Outcome} {c : Call} (never : (feed.client.fetchChannels w.network).1 = none)
    (rests : w.Rests feed (feed.client.fetchChannels w.network).2 (.ended outcome))
    (waits : c.IsFor feed w.registry.cells.length 0) (ready : (w.forlorn feed outcome [(name, c)]).Ready)
    (missing : w.registry.get? feed.cache channelsKey = none) :
    ∃ later : Call, later.IsFor feed w.registry.cells.length 0 ∧
      (w.forlorn feed outcome [(name, later)]).Ready ∧
      (w.forlorn feed outcome []).pollCalls [(name, c)] = (⟨false, []⟩, w.forlorn feed outcome [(name, later)]) := by
  obtain ⟨later, waitsOn, polled⟩ := pollCall_underway ready missing waits true
  have there : (w.forlorn feed outcome [(name, c)]).calls[0]? = some (name, c) := rfl
  have polls : (w.forlorn feed outcome [(name, c)]).turn (.poll true 0) = w.forlorn feed outcome [(name, later)] := by
    rw [turn_poll there, forlorn, polled]
    rfl
  have told := pollCall_dressed (w.forlorn feed outcome [(name, c)]) ({ · with calls := [] }) true c
  rw [forlorn, polled] at told
  change (w.forlorn feed outcome []).pollCall true c = (_, w.forlorn feed outcome []) at told
  refine ⟨later, waitsOn, polls ▸ ready.turn (.poll true 0), ?_⟩
  exact pollCalls_pending told (fly_forlorn never rests [(name, later)])

/-- A round in which the only fetch is run, and then the only call is polled. -/
theorem round_single {u v x : World} {moved : Bool} {moves : Moves} {call : String × Call}
    (flown : u.fly = (moved, v)) (line : v.calls = [call])
    (polled : pollCalls { v with calls := [] } [call] = (moves, x)) :
    u.round = (⟨moved || moves.anything, moves.completed⟩, x) := by
  simp only [round, flown, line, polled]

/-- Where no request is kept waiting, a load is given its result in one go, if a fetch without a cache comes to one. -/
theorem perform_load_missing (ready : w.Ready) (number : Nat) (name : String) (known : w.feeds[number]? = some feed)
    (missing : w.registry.get? feed.cache channelsKey = none) (flights : w.flights = []) (alone : w.calls = [])
    (flows : w.isHolding = false) :
    (w.perform true (.load number name)).1.answer = .pending ∧
      (w.perform true (.load number name)).1.completed =
        (feed.client.fetchChannels w.network).1.toList.map (loaded feed name) ∧
      (w.perform true (.load number name)).2.network = (feed.client.fetchChannels w.network).2 ∧
      ∀ fetched, (feed.client.fetchChannels w.network).1 = some fetched →
        (w.perform true (.load number name)).2 = w.landed feed false fetched [] := by
  obtain ⟨c, waits, begins⟩ := step_load_missing name known missing flights alone
  have underway : (w.step true (.load number name)).2.Ready := ready.turn (.command true (.load number name))
  rw [begins, flows] at underway
  have rests : w.Rests feed w.network feed.client.fetching := rfl
  obtain ⟨outcome, after, ended⟩ : ∃ outcome after,
    feed.client.fetching.advance false w.network = (.ended outcome, after) := ⟨_, _, rfl⟩
  have flown := underway.turn (.fly 0)
  obtain ⟨fetched, brought, lands⟩ | ⟨never, waitsOn⟩ := rests.lands ended [(name, c)]
  · rw [lands] at flown
    have first := round_single (u := w.underway feed false w.network feed.client.fetching [(name, c)])
      (congrArg (Prod.mk true) lands) rfl (pollCalls_landed waits flown missing)
    have settles : (w.underway feed false w.network feed.client.fetching [(name, c)]).settle =
        ([loaded feed name fetched], w.landed feed false fetched []) := by
      change World.rounds _ 4 = _
      simp only [rounds, first, round_landed, Bool.or_true, if_true, Bool.false_eq_true, if_false, List.append_nil]
    simp only [perform, begins, flows, settles, brought]
    refine ⟨trivial, rfl, rfl, ?_⟩
    rintro _ ⟨⟩
    rfl
  · rw [waitsOn] at flown
    have stays := rests.advance false
    rw [ended] at stays
    have rested : w.Rests feed (feed.client.fetchChannels w.network).2 (.ended outcome) := by
      rw [stays.fetchChannels_eq]
      exact stays
    obtain ⟨later, waitsLater, stands, polled⟩ := pollCalls_forlorn never rested waits flown missing
    obtain ⟨last, -, -, again⟩ := pollCalls_forlorn never rested waitsLater stands missing
    have first := round_single (u := w.underway feed false w.network feed.client.fetching [(name, c)])
      (congrArg (Prod.mk true) waitsOn) rfl polled
    have second := round_single (fly_forlorn never rested [(name, later)]) rfl again
    have settles : (w.underway feed false w.network feed.client.fetching [(name, c)]).settle =
        ([], w.forlorn feed outcome [(name, last)]) := by
      change World.rounds _ 4 = _
      simp only [rounds, first, second, Bool.or_false, if_true, Bool.false_eq_true, if_false, List.append_nil]
    simp only [perform, begins, flows, settles, never]
    exact ⟨trivial, rfl, rfl, fun _ brought => by cases brought⟩

/-! ## What stays in the cache -/

/-- The slot for the channels of a cache holds what was fetched, and there is no reason to fetch it again. -/
inductive Filled (w : World) (cache : Nat) (fetched : Except RequestFailure (List Channel)) : Prop where
  | intro {entry : EntryId} (leads : w.registry.get? cache channelsKey = some entry)
    (made : entry < w.registry.cells.length)
    (slot : w.registry.slot entry = ⟨ChannelState.ofFetch fetched, false, false, 0, 0⟩)

/-- A command by which a feed of a cache is asked for what is known. -/
inductive Consults (w : World) (cache : Nat) : Command → Prop where
  | channels {number : Nat} {feed : Feed} (known : w.feeds[number]? = some feed) (here : feed.cache = cache) :
    Consults w cache (.channels number)
  | load {number : Nat} {feed : Feed} (name : String) (known : w.feeds[number]? = some feed)
    (here : feed.cache = cache) : Consults w cache (.load number name)
  | subscribe {number : Nat} {feed : Feed} (name : String) (known : w.feeds[number]? = some feed)
    (here : feed.cache = cache) : Consults w cache (.subscribe number name)
  | state {number : Nat} {feed : Feed} (known : w.feeds[number]? = some feed) (here : feed.cache = cache) :
    Consults w cache (.state number)

/-- What the feeds of a cache answer that holds what was fetched, within a runtime and without. -/
structure Serves (w : World) (cache : Nat) (fetched : Except RequestFailure (List Channel)) : Prop where
  channels : ∀ inRuntime number feed, w.feeds[number]? = some feed → feed.cache = cache →
    w.answer (.command inRuntime (.channels number)) = .channels (fetched.toOption.getD [])
  load : ∀ inRuntime number name feed, w.feeds[number]? = some feed → feed.cache = cache →
    w.answer (.command inRuntime (.load number name)) = .result (feed.options.policy.present fetched)
  state : ∀ inRuntime number feed, w.feeds[number]? = some feed → feed.cache = cache →
    w.answer (.command inRuntime (.state number)) = .state (ChannelState.ofFetch fetched)
  subscribe : ∀ inRuntime number name feed, w.feeds[number]? = some feed → feed.cache = cache →
    (w.turn (.command inRuntime (.subscribe number name))).answer (.command inRuntime (.watchState name)) =
      .state (ChannelState.ofFetch fetched)

section
variable {cache : Nat} {fetched : Except RequestFailure (List Channel)} {inRuntime : Bool} {entry : EntryId}

theorem startFetch_filled (slot : w.registry.slot entry = ⟨ChannelState.ofFetch fetched, false, false, 0, 0⟩)
    (feed : Feed) : w.startFetch inRuntime feed entry = (false, w) := by
  have refused : w.registry.claim? entry = none := by
    rw [Registry.claim?_eq_none, slot, Slot.canClaim, ChannelState.isPending_ofFetch]
    rfl
  unfold startFetch Call.claim?
  cases inRuntime with
  | false => rfl
  | true => rw [if_pos rfl, refused]

theorem pollCall_filled (made : entry < w.registry.cells.length)
    (slot : w.registry.slot entry = ⟨ChannelState.ofFetch fetched, false, false, 0, 0⟩) (feed : Feed) :
    w.pollCall inRuntime (.load feed entry) = (.done (feed.options.policy.present fetched), w) := by
  have polls := polls_starting (w := w) (c := .load feed entry) inRuntime made rfl
  have refused : w.startFetch inRuntime (Call.load feed entry).feed (Call.load feed entry).entry = (false, w) :=
    startFetch_filled slot feed
  rw [refused] at polls
  have idle : (w.registry.slot entry).isFetching = false := by rw [slot]
  have comes := polls.of_load rfl
  change if (w.registry.slot entry).isFetching then _ else _ at comes
  rw [idle, if_neg Bool.false_ne_true] at comes
  rw [pollCall, comes]
  change (Polled.done (feed.options.policy.resolve (w.registry.slot entry).state), w) = _
  rw [slot, FailurePolicy.resolve_ofFetch]

theorem Filled.step_channels (filled : w.Filled cache fetched) (known : w.feeds[number]? = some feed)
    (here : feed.cache = cache) :
    w.step inRuntime (.channels number) = (.channels (fetched.toOption.getD []), w) := by
  obtain ⟨leads, made, slot⟩ := filled
  simp only [step, known, withHandle, channels, entry_of_get? (here ▸ leads), startFetch_filled slot]
  rw [slot]
  cases fetched <;> rfl

theorem Filled.step_load (filled : w.Filled cache fetched) (known : w.feeds[number]? = some feed)
    (here : feed.cache = cache) :
    w.step inRuntime (.load number name) = (.result (feed.options.policy.present fetched), w) := by
  obtain ⟨leads, made, slot⟩ := filled
  simp only [step, known, withHandle, load, entry_of_get? (here ▸ leads), begin, pollCall_filled made slot]

theorem Filled.step_state (filled : w.Filled cache fetched) (known : w.feeds[number]? = some feed)
    (here : feed.cache = cache) :
    w.step inRuntime (.state number) = (.state (ChannelState.ofFetch fetched), w) := by
  obtain ⟨leads, made, slot⟩ := filled
  subst here
  simp only [step, known, withHandle, state, leads, slot]

theorem Filled.step_subscribe (filled : w.Filled cache fetched) (inRuntime : Bool) (name : String)
    (known : w.feeds[number]? = some feed) (here : feed.cache = cache) :
    ∃ watch : Watch, watch.state w.registry = ChannelState.ofFetch fetched ∧
      w.step inRuntime (.subscribe number name) = (.nothing, { w with watches := w.watches.put name watch }) := by
  obtain @⟨entry, leads, made, slot⟩ := filled
  refine ⟨.subscribe w.registry entry, ?_, ?_⟩
  · rw [Watch.state]
    change (w.registry.slot entry).state = _
    rw [slot]
  · simp only [step, known, withHandle, subscribe, entry_of_get? (here ▸ leads), startFetch_filled slot]

theorem Filled.serves (filled : w.Filled cache fetched) : w.Serves cache fetched where
  channels _ _ _ known here := congrArg Prod.fst (filled.step_channels known here)
  load _ _ _ _ known here := congrArg Prod.fst (filled.step_load known here)
  state _ _ _ known here := congrArg Prod.fst (filled.step_state known here)
  subscribe inRuntime number name feed known here := by
    obtain ⟨watch, shows, subscribed⟩ := filled.step_subscribe inRuntime name known here
    simp only [answer, turn, subscribed]
    rw [step, Names.get?_put, if_pos rfl, withHandle]
    exact congrArg Answer.state shows

/-- To be asked for what is known leaves nothing behind but watches. -/
theorem Filled.turn (filled : w.Filled cache fetched) (inRuntime : Bool) {command : Command}
    (consults : w.Consults cache command) : ∃ watches, w.turn (.command inRuntime command) = { w with watches } := by
  cases consults with
  | channels known here => exact ⟨w.watches, congrArg Prod.snd (filled.step_channels known here)⟩
  | load name known here => exact ⟨w.watches, congrArg Prod.snd (filled.step_load known here)⟩
  | state known here => exact ⟨w.watches, congrArg Prod.snd (filled.step_state known here)⟩
  | subscribe name known here =>
    obtain ⟨watch, -, subscribed⟩ := filled.step_subscribe inRuntime name known here
    exact ⟨w.watches.put name watch, congrArg Prod.snd subscribed⟩

theorem Filled.withWatches (filled : w.Filled cache fetched) (watches : Names Watch) :
    Filled { w with watches } cache fetched := by
  obtain ⟨leads, made, slot⟩ := filled
  exact ⟨leads, made, slot⟩

theorem Consults.withWatches {command : Command} (consults : w.Consults cache command) (watches : Names Watch) :
    Consults { w with watches } cache command := by
  cases consults with
  | channels known here => exact .channels known here
  | load name known here => exact .load name known here
  | subscribe name known here => exact .subscribe name known here
  | state known here => exact .state known here

theorem Filled.turns (filled : w.Filled cache fetched) {commands : List (Bool × Command)}
    (consult : ∀ asked ∈ commands, w.Consults cache asked.2) :
    ∃ watches, w.turns (commands.map fun asked => .command asked.1 asked.2) = { w with watches } := by
  induction commands generalizing w with
  | nil => exact ⟨w.watches, rfl⟩
  | cons first rest ih =>
    obtain ⟨consults, consult⟩ := List.forall_mem_cons.mp consult
    obtain ⟨watches, same⟩ := filled.turn first.1 consults
    obtain ⟨more, goes⟩ := ih (filled.withWatches watches) fun asked there => (consult asked there).withWatches watches
    refine ⟨more, ?_⟩
    rw [List.map_cons, World.turns, same]
    exact goes

theorem Filled.serves_turns (filled : w.Filled cache fetched) {commands : List (Bool × Command)}
    (consult : ∀ asked ∈ commands, w.Consults cache asked.2) :
    Serves (w.turns (commands.map fun asked => .command asked.1 asked.2)) cache fetched := by
  obtain ⟨watches, same⟩ := filled.turns consult
  rw [same]
  exact (filled.withWatches watches).serves

end

theorem filled_landed (shared : feed.cache < w.registry.caches.length)
    (missing : w.registry.get? feed.cache channelsKey = none) (isHolding : Bool)
    (fetched : Except RequestFailure (List Channel)) :
    (w.landed feed isHolding fetched calls).Filled feed.cache fetched := by
  obtain ⟨new, made⟩ := getOrAdd_missing missing
  have leads := w.registry.get?_getOrAdd channelsKey shared
  rw [new] at leads
  refine .intro leads ?_ (slot_landed missing isHolding fetched)
  rw [landed, claimedFor, Registry.settle, Registry.length_update, Registry.length_update]
  exact made

theorem Course.filled (course : Course w feed name u) (shared : feed.cache < w.registry.caches.length)
    (missing : w.registry.get? feed.cache channelsKey = none) (ended : u.flights = [])
    {fetched : Except RequestFailure (List Channel)}
    (brought : (feed.client.fetchChannels w.network).1 = some fetched) : u.Filled feed.cache fetched := by
  cases course with
  | underway => cases ended
  | landed same | told same =>
    obtain rfl := Option.some.inj (same.symm.trans brought)
    exact filled_landed shared missing _ _

end World

/-! ## Loading once -/

/-- A load with nothing else going on is a single fetch, presented by the policy of the feed. -/
theorem Feed.loadAlone_eq (feed : Feed) (net : Network) :
    feed.loadAlone net =
      ((feed.client.fetchChannels net).1.map feed.options.policy.present, (feed.client.fetchChannels net).2) := by
  obtain ⟨waits, told, left, -⟩ := World.perform_load_missing
    (World.ready_start net 1 [{ feed with cache := 0 }]) 0 "" rfl rfl rfl rfl rfl
  rw [loadAlone]
  generalize (World.start net 1 [{ feed with cache := 0 }]).perform true (.load 0 "") = performed at waits told left
  obtain ⟨⟨answer, completed, slots, arrived⟩, u⟩ := performed
  obtain rfl : answer = .pending := waits
  obtain rfl : completed = _ := told
  change (_, u.network) = _
  rw [left]
  change (Option.map _ ((feed.client.fetchChannels net).1.toList.map _).head?, _) = _
  cases (feed.client.fetchChannels net).1 <;> rfl

/-- What comes of reading the channels of a service once. -/
inductive ReadsOnce (library : Library) (baseUrl : String) (net : Network) :
    Option (Except Failure (List Channel)) × Network → Prop where
  | refused {reason : String} (unusable : BaseUrl.parse baseUrl = .error (.invalidBaseUrl baseUrl reason)) :
    ReadsOnce library baseUrl net (some (.error (.invalidBaseUrl baseUrl reason)), net)
  | unbuilt {base : BaseUrl} {refusal : Refusal} (usable : BaseUrl.parse baseUrl = .ok base)
    (refuses : library none = some refusal) : ReadsOnce library baseUrl net (some (.error (.client refusal)), net)
  /-- A failed request reads as no channels. It may be that the service is waited for for ever. -/
  | read {base : BaseUrl} (usable : BaseUrl.parse baseUrl = .ok base) (builds : library none = none) :
    ReadsOnce library baseUrl net
      ((Client.fetchChannels ⟨base, none⟩ net).1.map fun fetched => .ok (fetched.toOption.getD []),
        (Client.fetchChannels ⟨base, none⟩ net).2)

theorem getChannels_readsOnce (library : Library) (baseUrl : String) (net : Network) :
    ReadsOnce library baseUrl net (getChannels library baseUrl net) := by
  rw [getChannels]
  split
  · next failure refused =>
    obtain unusable | ⟨base, refusal, usable, refuses, rfl⟩ := Client.make_eq_error.mp refused
    · obtain ⟨reason, rfl⟩ := BaseUrl.parse_eq_error unusable
      exact .refused unusable
    · exact .unbuilt usable refuses
  · next client made =>
    obtain ⟨base, limit⟩ := client
    obtain ⟨usable, builds, rfl⟩ := Client.make_eq_ok.mp made
    have read : ReadsOnce library baseUrl net _ := .read usable builds
    have concealed (fetched : Except RequestFailure (List Channel)) :
        FailurePolicy.present .conceal fetched = .ok (fetched.toOption.getD []) := by cases fetched <;> rfl
    rw [Feed.loadAlone_eq]
    exact (congrArg (Option.map · _) (funext concealed)) ▸ read

/-- Where every client can be built, only an address that is no base URL makes it fail. -/
theorem getChannels_failed {library : Library} (builds : library none = none) {baseUrl : String} {net : Network}
    {failure : Failure} :
    (getChannels library baseUrl net).1 = some (.error failure) ↔ BaseUrl.parse baseUrl = .error failure := by
  have read := getChannels_readsOnce library baseUrl net
  generalize getChannels library baseUrl net = result at read ⊢
  cases read with
  | refused unusable =>
    rw [unusable]
    constructor <;> (rintro ⟨⟩; rfl)
  | unbuilt usable refuses => cases refuses.symm.trans builds
  | @read base usable _ =>
    rw [usable]
    refine ⟨fun failed => ?_, fun unusable => nomatch unusable⟩
    obtain ⟨fetched, -, same⟩ := Option.map_eq_some_iff.mp failed
    cases same

/-- A load that finds no slot for the channels in its cache, within a runtime and with nothing else going on, is one
fetch.

It waits at first. However its fetch is held up and whenever it is polled, the requests that arrive are those of a
fetch without a cache, and it is given what that brings, presented by the policy of its feed; the fetch can always be
brought to its end, and is at once where nothing is held up, unless the one without a cache would wait for ever: then
the load does. What was fetched, be it a failure, is then in the cache: whoever asks for it leaves everything but the
watches as it was, and every feed of the cache answers with it, within a runtime and without.

To read the channels of a service once is such a load without a limit that conceals failures. It fails exactly if no
client is made, and on account of the base URL unless the library refuses to build one. -/
theorem cached_load_is_one_fetch :
    (∀ (network : Network) (caches : Nat) (feeds : List Feed) (past : List Turn) (number : Nat) (name : String)
      (feed : Feed),
      let w := (World.start network caches feeds).turns past
      let loading := w.turn (.command true (.load number name))
      let alone := feed.client.fetchChannels w.network
      w.feeds[number]? = some feed → feed.cache < w.registry.caches.length →
      w.registry.get? feed.cache channelsKey = none → w.flights = [] → w.calls = [] →
        w.answer (.command true (.load number name)) = .pending ∧
        (∀ later : List Turn, (∀ turn ∈ later, turn.IsQuiet) →
          let freed := (loading.turns later).turns [.command true .unhold, .command true .release, .fly 0]
          w.Loads feed (loading.turns later) ∧ freed.network = alone.2 ∧ (alone.1 ≠ none → freed.flights = []) ∧
          ∀ fetched, alone.1 = some fetched → (loading.turns later).flights = [] →
            ∀ commands : List (Bool × Command),
              (∀ asked ∈ commands, (loading.turns later).Consults feed.cache asked.2) →
              let asked := (loading.turns later).turns (commands.map fun asked => .command asked.1 asked.2)
              (∃ watches, asked = { loading.turns later with watches }) ∧ asked.Serves feed.cache fetched) ∧
        (w.isHolding = false →
          let performed := w.perform true (.load number name)
          performed.1.answer = .pending ∧
          performed.1.completed =
            alone.1.toList.map (fun fetched => ⟨name, feed.options.policy.present fetched⟩) ∧
          performed.2.network = alone.2 ∧
          ∀ fetched, alone.1 = some fetched → performed.2 = w.landed feed false fetched [])) ∧
    (∀ (library : Library) (baseUrl : String) (net : Network),
      ReadsOnce library baseUrl net (getChannels library baseUrl net)) ∧
    ∀ (library : Library) (baseUrl : String) (net : Network) (failure : Failure), library none = none →
      ((getChannels library baseUrl net).1 = some (.error failure) ↔ BaseUrl.parse baseUrl = .error failure) ∧
      ((getChannels library baseUrl net).1 = some (.error failure) →
        ∃ reason, failure = .invalidBaseUrl baseUrl reason) := by
  refine ⟨?_, getChannels_readsOnce, ?_⟩
  · intro network caches feeds past number name feed w loading alone known shared missing flights free
    have ready : w.Ready := (World.ready_start network caches feeds).turns past
    obtain ⟨c, waits, begins⟩ := World.step_load_missing name known missing flights free
    have course : World.Course w feed name loading := by
      have same : loading = _ := congrArg Prod.snd begins
      rw [same]
      exact .underway rfl waits
    refine ⟨congrArg Prod.fst begins, fun later quiet => ?_, ?_⟩
    · have goes := course.turns (ready.turn _) missing quiet
      obtain ⟨sent, comes⟩ := goes.ends
      refine ⟨goes.loads ((ready.turn _).turns later) missing, sent, comes, fun fetched brought ended commands consult => ?_⟩
      have filled := goes.filled shared missing ended brought
      exact ⟨filled.turns consult, filled.serves_turns consult⟩
    · exact World.perform_load_missing ready number name known missing flights free
  · intro library baseUrl net failure builds
    exact ⟨getChannels_failed builds, fun failed => BaseUrl.parse_eq_error ((getChannels_failed builds).mp failed)⟩

namespace OnceFailing

/-- The service fails once and would then reply with an empty list. -/
def network : Network := .answering [.prompt 500 [] none none, .empty]

def feed : Feed := .onLocalhost ⟨false, false, .surface⟩

/-- The cache is shared with a feed that conceals failures. -/
def begun : World := .start network 1 [feed, .onLocalhost .default]

def failure : RequestFailure := ⟨feed.client.base.channels, .status 500⟩

/-- The world after a load that was given the failure. -/
def failed : World := (begun.turn (.command true (.load 0 "first"))).turns [.fly 0, .poll true 0]

/-- The failure stays in the cache: a load that comes later is given it by a feed that surfaces failures, and no
channels by one that conceals them, and no other request arrives. An address that is no base URL is not asked at all. -/
theorem failure_stays_in_cache :
    failed.network.arrived.length = 1 ∧
      failed.answer (.command true (.load 0 "second")) = .result (.error (.fetch failure.message)) ∧
      failed.answer (.command true (.load 1 "third")) = .result (.ok []) ∧
      (∃ watches, failed.turns [.command true (.load 0 "second"), .command true (.load 1 "third")] =
        { failed with watches }) ∧
      ∃ reason, (getChannels .obliging "localhost" network).1 = some (.error (.invalidBaseUrl "localhost" reason)) := by
  obtain ⟨-, course, -⟩ := cached_load_is_one_fetch.1 network 1 [feed, .onLocalhost .default] [] 0 "first" feed rfl
    Nat.zero_lt_one rfl rfl rfl
  have quiet : ∀ turn ∈ [Turn.fly 0, .poll true 0], turn.IsQuiet :=
    List.forall_mem_cons.mpr ⟨.fly 0, List.forall_mem_singleton.mpr (.poll true 0)⟩
  obtain ⟨-, -, -, after⟩ := course [.fly 0, .poll true 0] quiet
  have ended : failed.flights = [] := rfl
  have fetched : (feed.client.fetchChannels network).1 = some (.error failure) := rfl
  have surfacing : failed.feeds[0]? = some feed := rfl
  have concealing : failed.feeds[1]? = some (.onLocalhost .default) := rfl
  have consult : ∀ asked ∈ [(true, Command.load 0 "second"), (true, .load 1 "third")], failed.Consults 0 asked.2 :=
    List.forall_mem_cons.mpr ⟨.load "second" surfacing rfl, List.forall_mem_singleton.mpr (.load "third" concealing rfl)⟩
  have serves : failed.Serves 0 (.error failure) := (after _ fetched ended [] fun _ none => nomatch none).2
  refine ⟨rfl, ?_, ?_, (after _ fetched ended _ consult).1, ?_⟩
  · exact serves.load true 0 "second" feed surfacing rfl
  · exact serves.load true 1 "third" (.onLocalhost .default) concealing rfl
  · obtain ⟨fails, names⟩ := cached_load_is_one_fetch.2.2 .obliging "localhost" network _ rfl
    have told := fails.mpr rfl
    obtain ⟨reason, same⟩ := names told
    exact ⟨reason, same ▸ told⟩

end OnceFailing

end ChannelFeed
