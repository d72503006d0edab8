import ChannelFeed.Proofs.Feed.Reaching
import ChannelFeed.Proofs.Feed.Waking
import ChannelFeed.Proofs.Feed.Watching
import ChannelFeed.Proofs.Sharing.Separation

/-!
# Slots apart from each other

A slot goes on alone. What is done to it is done by those who have it in hands, or by its key while the key leads to it.
A fetch that is on its way when the key is forgotten ends in the slot that it was started for, and is seen by those who
wait for it there. The slot that is made later under the same key is a new one, of which they know nothing.
-/
namespace ChannelFeed

open Cache

namespace World

variable {w w' : World} {ends : Prop} {before : Nat} {entry : EntryId}

theorem Change.orderly (change : Change ends before w w') (orderly : w.registry.Orderly) : w'.registry.Orderly := by
  cases change with
  | network | exchange | line | hands => exact orderly
  | add cache key => exact orderly.getOrAdd cache key
  | remove cache key => exact orderly.remove cache key
  | clear cache => exact orderly.clear cache
  | mark => exact orderly.update _ Slot.markedStale
  | launch feed known made granted =>
    obtain ⟨-, -, rfl⟩ := Registry.claim?_eq_some.mp granted
    exact orderly.update _ Slot.claimed
  | take may known made granted =>
    obtain ⟨-, -, rfl⟩ := Registry.claim?_eq_some.mp granted
    exact orderly.update _ Slot.claimed
  | finish => exact orderly.update _ _

theorem Change.unlisted (change : Change ends before w w') (made : entry < w.registry.cells.length)
    (listed : w'.registry.isListed entry = true) : w.registry.isListed entry = true := by
  cases change with
  | add => exact Registry.isListed_of_getOrAdd made listed
  | remove => exact Registry.isListed_of_remove listed
  | clear => exact Registry.isListed_of_clear listed
  | launch feed known there granted =>
    obtain ⟨-, -, rfl⟩ := Registry.claim?_eq_some.mp granted
    exact listed
  | take may known there granted =>
    obtain ⟨-, -, rfl⟩ := Registry.claim?_eq_some.mp granted
    exact listed
  | _ => exact listed

theorem Becomes.orderly (becomes : Becomes ends before w w') (orderly : w.registry.Orderly) : w'.registry.Orderly := by
  obtain ⟨m, watches, streams, changes, rfl, -⟩ := becomes
  change m.registry.Orderly
  induction changes with
  | refl => exact orderly
  | tail earlier change ih => exact change.orderly ih

theorem Becomes.unlisted (becomes : Becomes ends before w w') (made : entry < w.registry.cells.length)
    (listed : w'.registry.isListed entry = true) : w.registry.isListed entry = true := by
  obtain ⟨m, watches, streams, changes, rfl, -⟩ := becomes
  change m.registry.isListed entry = true at listed
  induction changes with
  | refl => exact listed
  | tail earlier change ih =>
    exact ih (change.unlisted (Nat.lt_of_lt_of_le made (Changes.precedes earlier entry).2) listed)

theorem orderly_turns (ready : w.Ready) (orderly : w.registry.Orderly) (turns : List Turn) :
    (w.turns turns).registry.Orderly := by
  induction turns generalizing w with
  | nil => exact orderly
  | cons turn turns ih => exact ih (ready.turn turn) ((becomes_turn ready turn).orderly orderly)

theorem not_listed_turns (ready : w.Ready) (made : entry < w.registry.cells.length)
    (unlisted : w.registry.isListed entry = false) (turns : List Turn) :
    (w.turns turns).registry.isListed entry = false ∧
      w.registry.cells.length ≤ (w.turns turns).registry.cells.length := by
  induction turns generalizing w with
  | nil => exact ⟨unlisted, Nat.le_refl _⟩
  | cons turn turns ih =>
    have becomes := becomes_turn ready turn
    have longer := (becomes.precedes entry).2
    have still : (w.turn turn).registry.isListed entry = false := by
      refine Bool.eq_false_iff.mpr fun listed => ?_
      rw [becomes.unlisted made listed] at unlisted
      cases unlisted
    obtain ⟨later, grows⟩ := ih (ready.turn turn) (Nat.lt_of_lt_of_le made longer) still
    exact ⟨later, Nat.le_trans longer grows⟩

theorem registry_forgotten {cache : Nat} {key : String} {command : Command}
    (forgets : command = .cacheRemove cache key ∨ command = .cacheClear cache) (inRuntime : Bool) :
    (w.turn (.command inRuntime command)).registry = (w.registry.remove cache key).2 ∨
      (w.turn (.command inRuntime command)).registry = w.registry.clear cache := by
  rcases forgets with rfl | rfl
  · exact .inl rfl
  · exact .inr rfl

/-- Who sees that a fetch has ended, and what is left of it: its slot has the state, and no other slot is touched. A call
in line for the slot is given the state at its next poll, unless it wants what is fetched later and can start another
fetch of the same slot. A watch of the slot reports the state if it is another one than it reported last. -/
structure Lands (w : World) (place : Nat) (claim : Claim) (state : ChannelState) : Prop where
  cell : (w.turn (.fly place)).registry.cell claim.entry =
    (w.registry.cell claim.entry).update (·.settled claim.generation state)
  others : ∀ other, other ≠ claim.entry → (w.turn (.fly place)).registry.cell other = w.registry.cell other
  calls : ∀ (q : Nat) (name : String) (c : Call), w.calls[q]? = some (name, c) → c.entry = claim.entry → ∀ inRuntime,
    (w.turn (.fly place)).answer (.poll inRuntime q) =
      if inRuntime = true ∧ claim.generation < c.since then .pending
      else .result (c.feed.options.policy.resolve state)
  again : ∀ (q : Nat) (name : String) (c : Call), w.calls[q]? = some (name, c) → c.entry = claim.entry →
    claim.generation < c.since → ((w.turn (.fly place)).turn (.poll true q)).flights =
      (w.turn (.fly place)).flights ++ [.start c.feed ⟨claim.entry, (w.registry.slot claim.entry).generation⟩]
  watches : ∀ x ∈ w.watches.things ++ w.streams.things, x.receiver.entry = claim.entry →
    ((w.turn (.fly place)).pollWatch x).1 =
      Watch.due state ((w.turn (.fly place)).isOwned claim.entry) x.last

theorem turn_fly_ended {place : Nat} {f : Flight} {fetched : Except RequestFailure (List Channel)}
    (there : w.flights[place]? = some f) (ended : (f.advance w.isHolding w.network).1.fetched? = some fetched) :
    w.turn (.fly place) =
      { w with
        network := (f.advance w.isHolding w.network).2
        flights := w.flights.eraseIdx place
        registry := w.registry.settle f.claim (ChannelState.ofFetch fetched) } := by
  simp only [turn, there, runFlight, ended]
  rfl

theorem poll_advance {place : Nat} {name : String} {c : Call} (there : w.calls[place]? = some (name, c))
    (inRuntime : Bool) :
    w.answer (.poll inRuntime place) =
      (match (w.advance inRuntime c maxAccesses).1 with
        | .pending _ => .pending
        | .done state => .result (c.feed.options.policy.resolve state)) ∧
      (w.turn (.poll inRuntime place)).flights = (w.advance inRuntime c maxAccesses).2.flights := by
  rw [turn_poll there]
  simp only [answer, there]
  unfold pollCall
  obtain ⟨polled, w'⟩ := w.advance inRuntime c maxAccesses
  cases polled <;> exact ⟨rfl, rfl⟩

theorem reached_turns (reached : system.Reached w) (turns : List Turn) : system.Reached (w.turns turns) := by
  induction turns generalizing w with
  | nil => exact reached
  | cons turn turns ih => exact ih (reached.goes ⟨turn, rfl⟩)

/-- A call in line whose slot was settled at a generation is given the state, unless it wants what is fetched later and
can start another fetch of the slot. -/
theorem polls_settled {c : Call} (ready : w.Ready) {place : Nat} {name : String}
    (there : w.calls[place]? = some (name, c)) {slot : Slot (List Channel)} {generation : Nat} {state : ChannelState}
    (settled : w.registry.slot c.entry = slot.settled generation state) (inRuntime : Bool) :
    if inRuntime = true ∧ generation < c.since then
      ∃ rest, w.advance inRuntime c maxAccesses =
        (.pending rest, launch { w with registry := w.registry.update c.entry Slot.claimed } c.feed
          (some ⟨c.entry, slot.generation⟩))
    else w.advance inRuntime c maxAccesses = (.done state, w) := by
  have waiting := List.mem_of_getElem? there
  have waits := ready.waits _ waiting
  have idle : (w.registry.slot c.entry).isFetching = false := by rw [settled]; rfl
  have since : c.since ≤ slot.generation := by
    have kept := waits.since
    rw [settled] at kept
    exact kept
  have polls := polls_waiting inRuntime (ready.calls _ waiting) waits
  have granted (wants : generation < c.since) : w.registry.claim? c.entry =
      some (⟨c.entry, slot.generation⟩, w.registry.update c.entry Slot.claimed) := by
    refine Registry.claim?_eq_some.mpr ⟨?_, ?_, rfl⟩
    · have stale : slot.generation ≠ generation := Nat.ne_of_gt (Nat.lt_of_lt_of_le wants since)
      simp [settled, Slot.canClaim, Slot.settled, stale]
    · rw [settled]
      rfl
  generalize w.advance inRuntime c maxAccesses = result at polls ⊢
  cases polls with
  | blocked busy =>
    rw [idle] at busy
    cases busy
  | ended free enough =>
    rw [settled] at enough
    rw [if_neg (fun wants => Nat.not_le_of_lt wants.2 enough), settled]
    rfl
  | renewed free old asked =>
    rw [settled] at old
    obtain ⟨able, taken⟩ := Call.claim?_eq_some.mp asked
    rw [granted old] at taken
    cases taken
    rw [if_pos ⟨able, old⟩]
    exact ⟨_, rfl⟩
  | outdated free old asked =>
    rw [settled] at old
    have unable : ¬(inRuntime = true ∧ generation < c.since) := by
      rintro ⟨rfl, -⟩
      rw [Call.claim?, if_pos rfl, granted old] at asked
      cases asked
    rw [if_neg unable, settled]
    rfl

/-- Every watch in hands was watched from its beginning. -/
def Attended (w : World) : Prop :=
  ∀ x ∈ w.watches.things ++ w.streams.things, ∃ entry first looks, Watched system entry first looks x w

theorem lands (reached : system.Reached w) (attended : w.Attended) {place : Nat} {f : Flight}
    {fetched : Except RequestFailure (List Channel)} (there : w.flights[place]? = some f)
    (ended : (f.advance w.isHolding w.network).1.fetched? = some fetched) :
    w.Lands place f.claim (ChannelState.ofFetch fetched) := by
  have ready := ready_of_reached reached
  have after := turn_fly_ended there ended
  have later := ready.turn (.fly place)
  have made : f.claim.entry < w.registry.cells.length :=
    ready.toIntact.inside (List.mem_append_left _ (List.mem_map_of_mem (List.mem_of_getElem? there)))
  generalize ChannelState.ofFetch fetched = state at after ⊢
  have registry : (w.turn (.fly place)).registry = w.registry.settle f.claim state := by rw [after]
  have line : (w.turn (.fly place)).calls = w.calls := by rw [after]
  have cell : (w.turn (.fly place)).registry.cell f.claim.entry =
      (w.registry.cell f.claim.entry).update (·.settled f.claim.generation state) := by
    rw [registry]
    exact w.registry.cell_update_self _ made
  have slot : (w.turn (.fly place)).registry.slot f.claim.entry =
      (w.registry.slot f.claim.entry).settled f.claim.generation state := congrArg Cell.slot cell
  refine ⟨cell, ?_, ?_, ?_, ?_⟩
  · intro other apart
    rw [registry]
    exact w.registry.cell_update_of_ne _ apart
  · intro q name c waiting same inRuntime
    rw [← line] at waiting
    have polled := polls_settled later waiting (same ▸ slot) inRuntime
    rw [(poll_advance waiting inRuntime).1]
    by_cases wants : inRuntime = true ∧ f.claim.generation < c.since
    · rw [if_pos wants] at polled
      obtain ⟨rest, polled⟩ := polled
      rw [polled, if_pos wants]
    · rw [if_neg wants] at polled
      rw [polled, if_neg wants]
  · intro q name c waiting same wants
    rw [← line] at waiting
    have polled := polls_settled later waiting (same ▸ slot) true
    rw [if_pos ⟨rfl, wants⟩] at polled
    obtain ⟨rest, polled⟩ := polled
    rw [(poll_advance waiting true).2, polled, same]
    rfl
  · intro x inHands same
    obtain ⟨entry, first, looks, watched⟩ := attended x inHands
    have attentive := (watched.goes (t := w.turn (.fly place)) ⟨_, rfl⟩).attentive steady
    obtain rfl := attentive.on
    have reports : ((w.turn (.fly place)).pollWatch x).1 =
        Watch.due (x.state (w.turn (.fly place)).registry) ((w.turn (.fly place)).isOwned x.receiver.entry) x.last :=
      congrArg Prod.fst (Watch.poll_eq _ attentive.kept)
    have shows : x.state (w.turn (.fly place)).registry = state := by
      rw [Watch.state, same, slot]
      rfl
    rw [reports, shows, same]

/-- The slot that a key would be given now: it is a fresh one, nobody has it in hands, and a fetch of it can be started
whatever is on its way. -/
structure Anew (w : World) (cache : Nat) (key : String) : Prop where
  made : (w.registry.getOrAdd cache key).1 = w.registry.cells.length
  cell : (w.registry.getOrAdd cache key).2.cell w.registry.cells.length = .fresh
  shown : ∀ inRuntime, w.answer (.command inRuntime (.cacheEntry cache key)) = .slot .fresh
  unknown : ∀ turn, w.registry.cells.length ∉ w.handles turn
  fetched : ∀ number feed, w.feeds[number]? = some feed → feed.cache = cache → key = channelsKey →
    (w.turn (.command true (.channels number))).flights = w.flights ++ [.start feed ⟨w.registry.cells.length, 0⟩]

theorem handles_made (intact : w.Intact) {turn : Turn} (holds : entry ∈ w.handles turn) :
    entry < w.registry.cells.length := by
  have named {name : String} (there : entry ∈ (w.claims.get? name).toList.map (·.entry)) :
      entry < w.registry.cells.length := by
    obtain ⟨claim, under, rfl⟩ := List.mem_map.mp there
    exact intact.named (Option.mem_toList.mp under)
  have kept {name : String} (there : entry ∈ (w.entries.get? name).toList) : entry < w.registry.cells.length :=
    intact.kept entry (isKept_of_entry (Option.mem_toList.mp there))
  have flying {f : Flight} (there : f ∈ w.flights) : f.claim.entry < w.registry.cells.length :=
    intact.inside (List.mem_append_left _ (List.mem_map_of_mem there))
  cases turn with
  | poll inRuntime place =>
    obtain ⟨pair, waits, rfl⟩ := List.mem_map.mp holds
    exact intact.calls pair (List.mem_of_getElem? (Option.mem_toList.mp waits))
  | fly place =>
    obtain ⟨f, flies, rfl⟩ := List.mem_map.mp holds
    exact flying (List.mem_of_getElem? (Option.mem_toList.mp flies))
  | command inRuntime command =>
    cases command with
    | restart =>
      obtain ⟨f, flies, rfl⟩ := List.mem_map.mp holds
      exact flying flies
    | claim cache name => exact named holds
    | settle name state => exact named holds
    | dropClaim name => exact named holds
    | look name | mark name | wait name other => exact kept holds
    | claimKept under name => exact (List.mem_append.mp holds).elim kept named
    | pollWait name =>
      obtain ⟨wait, under, rfl⟩ := List.mem_map.mp holds
      exact intact.kept wait.entry (isKept_of_wait (Option.mem_toList.mp under))
    | _ => cases holds

theorem anew (intact : w.Intact) {cache : Nat} {key : String} (missing : w.registry.get? cache key = none) :
    w.Anew cache key := by
  have made : (w.registry.getOrAdd cache key).1 = w.registry.cells.length := by rw [Registry.getOrAdd, missing]
  have fresh : (w.registry.getOrAdd cache key).2.cell w.registry.cells.length = .fresh := by
    rw [Registry.cell_getOrAdd, Registry.cell, List.getElem?_eq_none (Nat.le_refl _)]
    rfl
  refine ⟨made, fresh, ?_, ?_, ?_⟩
  · intro inRuntime
    simp only [answer, step, Registry.entry_eq_getOrAdd, Registry.slot, made, fresh]
    rfl
  · exact fun turn holds => Nat.lt_irrefl _ (handles_made intact holds)
  · rintro number feed known rfl rfl
    have slot : (w.registry.getOrAdd feed.cache channelsKey).2.slot w.registry.cells.length = .fresh :=
      congrArg Cell.slot fresh
    have granted : (w.registry.getOrAdd feed.cache channelsKey).2.claim? w.registry.cells.length =
        some (⟨w.registry.cells.length, 0⟩, _) := Registry.claim?_eq_some.mpr ⟨by rw [slot]; rfl, by rw [slot]; rfl, rfl⟩
    simp only [turn, step, known, withHandle, channels, entry_eq, made, startFetch, Call.claim?, if_true, granted]
    rfl

/-- What stays apart in a world that has gone on by turns. -/
structure Isolated (begun : World) (turns : List Turn) : Prop where
  /-- A slot comes from its own operations. -/
  cell : ∀ entry, (begun.turns turns).registry.cell entry = replay .fresh ((begun.logs turns).on entry)
  /-- A turn operates on a slot that it has in hands, or by a key that leads to the slot. -/
  operated : ∀ turn entry operation, (entry, operation) ∈ (begun.turns turns).log turn →
    (begun.turns turns).Reaches turn entry
  untouched : ∀ turn entry, ¬(begun.turns turns).Reaches turn entry →
    ((begun.turns turns).turn turn).registry.cell entry = (begun.turns turns).registry.cell entry
  /-- Different keys lead to different slots. -/
  keys : ∀ cache key cache' key' entry, (begun.turns turns).registry.get? cache key = some entry →
    (begun.turns turns).registry.get? cache' key' = some entry → cache = cache' ∧ key = key'
  /-- A fetch ends in the slot that it was started for. -/
  fetched : ∀ place f fetched, (begun.turns turns).flights[place]? = some f →
    (f.advance (begun.turns turns).isHolding (begun.turns turns).network).1.fetched? = some fetched →
      (begun.turns turns).Lands place f.claim (ChannelState.ofFetch fetched)
  /-- A slot whose key is forgotten stays as it is. Later no key leads to it, so that only those get at it who have it in
  hands, and the key leads to another slot. -/
  forgotten : ∀ cache key entry command inRuntime later, (begun.turns turns).registry.get? cache key = some entry →
    command = .cacheRemove cache key ∨ command = .cacheClear cache →
      let removed := (begun.turns turns).turn (.command inRuntime command)
      let w := removed.turns later
      removed.registry.cell entry = (begun.turns turns).registry.cell entry ∧
      (∀ other otherKey, w.registry.get? other otherKey ≠ some entry) ∧
      (∀ turn, w.Reaches turn entry → entry ∈ w.handles turn) ∧
      ∀ new, w.registry.get? cache key = some new → new ≠ entry
  anew : ∀ cache key, (begun.turns turns).registry.get? cache key = none → (begun.turns turns).Anew cache key

theorem isolated_turns (network : Http.Network) (caches : Nat) (feeds : List Feed) (turns : List Turn) :
    Isolated (start network caches feeds) turns := by
  have begun := ready_start network caches feeds
  have ready := begun.turns turns
  have orderly := orderly_turns begun (Registry.orderly_empty caches) turns
  have reached : system.Reached ((start network caches feeds).turns turns) :=
    reached_turns (reached_start network caches feeds) turns
  have attended := watched_of_turns (reached_start network caches feeds) turns fun x none => nomatch none
  refine ⟨?_, ?_, ?_, ?_, ?_, ?_, ?_⟩
  · exact begun.toIntact.follows (keeps_turns begun.toIntact turns)
  · exact fun turn entry operation there => reaches_of_mem_log there
  · exact fun turn entry off => cell_of_not_reaches ready.toIntact off
  · exact fun cache key cache' key' entry found also => orderly.separate.key_unique found also
  · exact fun place f fetched there ended => lands reached attended there ended
  · intro cache key entry command inRuntime later found forgets
    obtain ⟨unlisted, same⟩ := orderly.separate.not_listed_of_forgotten found (registry_forgotten forgets inRuntime)
    have removed := ready.turn (.command inRuntime command)
    have made : entry < (turn _ (.command inRuntime command)).registry.cells.length :=
      Nat.lt_of_lt_of_le (orderly.closed.get?_lt found) ((becomes_turn ready _).precedes entry).2
    obtain ⟨still, longer⟩ := not_listed_turns removed made unlisted later
    have gone := Registry.get?_ne_of_not_listed still
    refine ⟨same, gone, ?_, ?_⟩
    · intro turn reaches
      cases reaches with
      | handle holds => exact holds
      | key known leads => exact absurd (Registry.get?_of_getOrAdd (Nat.lt_of_lt_of_le made longer) leads) (gone _ _)
    · rintro new leads rfl
      exact gone cache key leads
  · exact fun cache key missing => anew ready.toIntact missing

end World

/-- Slots are apart from each other, also those that one key has led to one after the other: among many threads whose
accesses are mixed, and in a world after any turns. -/
theorem slots_are_isolated :
    (∀ {α : Type} {caches : Nat} {past : List (Deed α)} {o : Owned α},
      (Owned.start caches).run past = some o → Owned.Isolated past o) ∧
    ∀ (network : Http.Network) (caches : Nat) (feeds : List Feed) (turns : List Turn),
      World.Isolated (.start network caches feeds) turns :=
  ⟨Owned.isolated_run, World.isolated_turns⟩

/-- A key is removed while a fetch is on its way. The fetch ends in the slot it was started for, by a claim of a thread or
in a world, where the load that waits is given its state; the key would be given a new slot. -/
theorem isolated_if_removed :
    (∃ o : Owned (List Channel), (Owned.start 1).run [.access (.settle ⟨0, ⟨0, 0⟩, false⟩ (.ready [])),
        .access (.remove 0 "channels"), .access (.claim ⟨0, ⟨0, 0⟩, false⟩), .access (.add 0 "channels")] = some o ∧
      o.shared.registry.cell 0 = replay .fresh [.claim, .settle 0 (.ready [])] ∧
        o.shared.registry.get? 0 "channels" = none ∧
          ((o.shared.registry.getOrAdd 0 "channels").2.slot 1).canClaim = true) ∧
    ∃ state, World.Lands ((World.start (.answering []) 1 [.onLocalhost .default]).turns
        [.command true (.load 0 "load"), .command true (.cacheRemove 0 channelsKey)]) 0 ⟨0, 0⟩ state ∧
      World.Anew ((World.start (.answering []) 1 [.onLocalhost .default]).turns
        [.command true (.load 0 "load"), .command true (.cacheRemove 0 channelsKey)]) 0 channelsKey := by
  constructor
  · have ran : (Owned.start 1 : Owned (List Channel)).run [.access (.settle ⟨0, ⟨0, 0⟩, false⟩ (.ready [])),
        .access (.remove 0 "channels"), .access (.claim ⟨0, ⟨0, 0⟩, false⟩), .access (.add 0 "channels")] = some _ := rfl
    have isolated := slots_are_isolated.1 ran
    exact ⟨_, ran, isolated.cell 0, rfl, (isolated.anew 0 "channels" rfl).2.1⟩
  · have isolated := slots_are_isolated.2 (.answering []) 1 [.onLocalhost .default]
      [.command true (.load 0 "load"), .command true (.cacheRemove 0 channelsKey)]
    exact ⟨_, isolated.fetched 0 _ _ rfl rfl, isolated.anew 0 channelsKey rfl⟩

end ChannelFeed
