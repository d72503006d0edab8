import ChannelFeed.Proofs.Feed.Changes
import ChannelFeed.Proofs.Feed.Origins

/-!
# Results

Where the channels come from that a call is given. A fetch ends by settling its slot with what it brought, or is
dropped on its way. A call whose feed surfaces failures is given channels that some fetch of its slot has brought,
unless it waited for the first fetch ever and that was dropped.
-/
namespace ChannelFeed

open Cache

/-- The end of a fetch: what it has brought to a slot, or nothing if it was dropped. -/
structure Ending where
  entry : EntryId
  outcome : Option (Except RequestFailure (List Channel))

/-- Whether a turn is as usual: nobody takes a claim by hand, and calls are made and polled within a runtime. -/
def Turn.isUsual : Turn → Bool
  | .command _ (.claim _ _) | .command _ (.claimKept _ _) => false
  | .command inRuntime (.load _ _) | .command inRuntime (.refetch _ _) | .poll inRuntime _ => inRuntime
  | _ => true

namespace World

def ending (w : World) : Turn → List Ending
  | .fly place =>
    match w.flights[place]? with
    | none => []
    | some f =>
      (f.advance w.isHolding w.network).1.fetched?.toList.map fun fetched => ⟨f.claim.entry, some fetched⟩
  | .command _ .restart => w.flights.map fun f => ⟨f.claim.entry, none⟩
  | _ => []

/-- The fetches that end in a run, in this order. -/
def endings (w : World) : List Turn → List Ending
  | [] => []
  | turn :: rest => w.ending turn ++ (w.turn turn).endings rest

variable {w w' : World} {before : Nat} {entry : EntryId}

/-! ## What is left alone while no claim ends -/

/-- What changes leave that end no claim: the states of all slots, the marks of fetches on their way, and the claims that
were taken by hand. -/
structure Leaves (w w' : World) : Prop where
  state : ∀ entry, (w'.registry.slot entry).state = (w.registry.slot entry).state
  settledGeneration : ∀ entry, (w'.registry.slot entry).settledGeneration = (w.registry.slot entry).settledGeneration
  isFetching : ∀ entry, (w.registry.slot entry).isFetching = true → (w'.registry.slot entry).isFetching = true
  claims : w'.claims = w.claims
  calls : ∀ c ∈ w'.calls, c ∈ w.calls ∨ (w'.registry.slot c.2.entry).isFetching = true

namespace Leaves

theorem refl (w : World) : w.Leaves w := ⟨fun _ => rfl, fun _ => rfl, fun _ => id, rfl, fun _ => .inl⟩

theorem trans {w'' : World} (first : w.Leaves w') (second : w'.Leaves w'') : w.Leaves w'' where
  state entry := (second.state entry).trans (first.state entry)
  settledGeneration entry := (second.settledGeneration entry).trans (first.settledGeneration entry)
  isFetching entry := second.isFetching entry ∘ first.isFetching entry
  claims := second.claims.trans first.claims
  calls c there := (second.calls c there).elim
    (fun earlier => (first.calls c earlier).imp_right (second.isFetching c.2.entry)) .inr

/-- Nothing but the flags of a slot changes, and no mark of a fetch is taken away. -/
theorem of_update {f : Slot (List Channel) → Slot (List Channel)} (claimed : EntryId) (flights : List Flight)
    (flags : ∀ slot, (f slot).state = slot.state ∧ (f slot).settledGeneration = slot.settledGeneration ∧
      (slot.isFetching = true → (f slot).isFetching = true)) :
    w.Leaves { w with registry := w.registry.update claimed f, flights } := by
  have each (entry : EntryId) : ((w.registry.update claimed f).slot entry).state = (w.registry.slot entry).state ∧
      ((w.registry.update claimed f).slot entry).settledGeneration = (w.registry.slot entry).settledGeneration ∧
      ((w.registry.slot entry).isFetching = true → ((w.registry.update claimed f).slot entry).isFetching = true) := by
    simp only [Registry.slot]
    rcases w.registry.cell_update_cases claimed entry f with same | ⟨-, changed⟩
    · rw [same]
      exact ⟨rfl, rfl, id⟩
    · rw [changed]
      exact flags _
  exact ⟨fun entry => (each entry).1, fun entry => (each entry).2.1, fun entry => (each entry).2.2, rfl, fun _ => .inl⟩

theorem of_cells (same : ∀ entry, w'.registry.cell entry = w.registry.cell entry) (claims : w'.claims = w.claims)
    (calls : w'.calls = w.calls) : w.Leaves w' := by
  have each (entry : EntryId) : w'.registry.slot entry = w.registry.slot entry := congrArg Cell.slot (same entry)
  refine ⟨?_, ?_, ?_, claims, fun c there => .inl (calls ▸ there)⟩
  · exact fun entry => congrArg Slot.state (each entry)
  · exact fun entry => congrArg Slot.settledGeneration (each entry)
  · exact fun entry busy => each entry ▸ busy

end Leaves

theorem Change.leaves (change : Change False before w w') : w.Leaves w' := by
  cases change with
  | network => exact .of_cells (fun _ => rfl) rfl rfl
  | add cache key => exact .of_cells (w.registry.cell_getOrAdd cache key) rfl rfl
  | remove => exact .of_cells (fun _ => rfl) rfl rfl
  | clear => exact .of_cells (fun _ => rfl) rfl rfl
  | mark => exact .of_update _ w.flights fun _ => ⟨rfl, rfl, id⟩
  | launch feed known made granted =>
    obtain ⟨-, -, rfl⟩ := Registry.claim?_eq_some.mp granted
    exact .of_update _ _ fun _ => ⟨rfl, rfl, fun _ => rfl⟩
  | exchange => exact .of_cells (fun _ => rfl) rfl rfl
  | line each => exact ⟨fun _ => rfl, fun _ => rfl, fun _ => id, rfl, fun c there => (each c there).imp_right (·.2.2)⟩
  | hands => exact .of_cells (fun _ => rfl) rfl rfl
  | take may => exact may.elim
  | finish may => exact may.elim

theorem Changes.leaves (changes : Changes False before w w') : w.Leaves w' := by
  induction changes with
  | refl => exact .refl w
  | tail earlier change ih => exact ih.trans change.leaves

theorem Becomes.leaves (becomes : Becomes False before w w') : w.Leaves w' := by
  obtain ⟨m, watches, streams, changes, rfl, -⟩ := becomes
  have left := changes.leaves
  exact ⟨left.state, left.settledGeneration, left.isFetching, left.claims, left.calls⟩

/-! ## What slots and calls owe to the fetches that ended -/

/-- What is in the slots was brought by fetches that ended, and a call waits for a fetch that is on its way, unless it
has ended by now. -/
structure Earned (w : World) (endings : List Ending) : Prop where
  claims : w.claims = []
  pending : ∀ entry, (w.registry.slot entry).state = .pending →
    (w.registry.slot entry).settledGeneration = 0 ∧ ∀ outcome, ⟨entry, some outcome⟩ ∉ endings
  ready : ∀ entry channels, (w.registry.slot entry).state = .ready channels → ⟨entry, some (.ok channels)⟩ ∈ endings
  calls : ∀ c ∈ w.calls, (w.registry.slot c.2.entry).isFetching = true ∨
    (w.registry.slot c.2.entry).state ≠ .pending ∨ ⟨c.2.entry, none⟩ ∈ endings

namespace Earned

variable {endings : List Ending}

theorem start (network : Http.Network) (caches : Nat) (feeds : List Feed) :
    Earned (start network caches feeds) [] where
  claims := rfl
  pending := fun entry _ => ⟨rfl, fun outcome => List.not_mem_nil⟩
  ready := by
    intro entry channels ready
    cases ready
  calls := by
    intro c there
    cases there

theorem leaves (earned : w.Earned endings) (leaves : w.Leaves w') : w'.Earned endings where
  claims := leaves.claims.trans earned.claims
  pending := by
    intro entry pending
    rw [leaves.state] at pending
    rw [leaves.settledGeneration]
    exact earned.pending entry pending
  ready := by
    intro entry channels ready
    rw [leaves.state] at ready
    exact earned.ready entry channels ready
  calls := by
    intro c there
    rw [leaves.state]
    rcases leaves.calls c there with before | busy
    · exact (earned.calls c before).imp_left (leaves.isFetching c.2.entry)
    · exact .inl busy

theorem settle (earned : w.Earned endings) {claim : Claim} (made : claim.entry < w.registry.cells.length)
    (outcome : Except RequestFailure (List Channel)) (network : Http.Network) (flights : List Flight) :
    Earned { w with network, registry := w.registry.settle claim (ChannelState.ofFetch outcome), flights }
      (endings ++ [⟨claim.entry, some outcome⟩]) := by
  have slot (entry : EntryId) : (w.registry.settle claim (ChannelState.ofFetch outcome)).slot entry =
      if entry = claim.entry then (w.registry.slot entry).settled claim.generation (ChannelState.ofFetch outcome)
      else w.registry.slot entry := w.registry.slot_update entry _ made
  have settled := ChannelState.isPending_ofFetch outcome
  refine ⟨earned.claims, ?_, ?_, ?_⟩
  · intro entry pending
    rw [slot] at pending ⊢
    by_cases same : entry = claim.entry
    · rw [if_pos same] at pending
      rw [show ChannelState.ofFetch outcome = .pending from pending] at settled
      cases settled
    · rw [if_neg same] at pending ⊢
      obtain ⟨never, none⟩ := earned.pending entry pending
      refine ⟨never, fun other there => ?_⟩
      rcases List.mem_append.mp there with old | new
      · exact none other old
      · exact same (congrArg Ending.entry (List.mem_singleton.mp new))
  · intro entry channels ready
    rw [slot] at ready
    by_cases same : entry = claim.entry
    · rw [if_pos same] at ready
      have brought : ChannelState.ofFetch outcome = .ready channels := ready
      cases outcome with
      | ok list =>
        cases brought
        rw [same]
        exact List.mem_append_right _ (List.mem_singleton.mpr rfl)
      | error failure => cases brought
    · rw [if_neg same] at ready
      exact List.mem_append_left _ (earned.ready entry channels ready)
  · intro c there
    rw [slot]
    by_cases same : c.2.entry = claim.entry
    · rw [if_pos same]
      refine .inr (.inl fun pending => ?_)
      rw [show ChannelState.ofFetch outcome = .pending from pending] at settled
      cases settled
    · rw [if_neg same]
      exact (earned.calls c there).imp_right (.imp_right (List.mem_append_left _))

theorem fly (earned : w.Earned endings) (intact : w.Intact) (place : Nat) :
    (w.turn (.fly place)).Earned (endings ++ w.ending (.fly place)) := by
  simp only [turn, ending]
  cases there : w.flights[place]? with
  | none => exact (List.append_nil endings).symm ▸ earned
  | some f =>
    have holds : f.claim ∈ w.custody.claims :=
      List.mem_append_left _ (List.mem_map_of_mem (List.mem_of_getElem? there))
    dsimp only
    obtain ⟨fetched, known, same⟩ | ⟨unknown, same⟩ :=
      runFlight_cases { w with flights := w.flights.eraseIdx place } f
    · rw [same, known]
      exact earned.settle (intact.inside holds) _ _ _
    · rw [same, unknown, Option.toList_none, List.map_nil, List.append_nil]
      exact earned.leaves (.of_cells (fun _ => rfl) rfl rfl)

theorem release (earned : w.Earned endings) (claim : Claim) (flights : List Flight) :
    Earned { w with registry := w.registry.release claim, flights } (endings ++ [⟨claim.entry, none⟩]) := by
  have slot (entry : EntryId) : (w.registry.release claim).slot entry = w.registry.slot entry ∨
      entry = claim.entry ∧ (w.registry.release claim).slot entry = (w.registry.slot entry).released :=
    (w.registry.cell_update_cases claim.entry entry Slot.released).imp (congrArg Cell.slot)
      (.imp_right (congrArg Cell.slot))
  have state (entry : EntryId) : ((w.registry.release claim).slot entry).state = (w.registry.slot entry).state ∧
      ((w.registry.release claim).slot entry).settledGeneration = (w.registry.slot entry).settledGeneration := by
    rcases slot entry with same | ⟨-, released⟩
    · rw [same]
      exact ⟨rfl, rfl⟩
    · rw [released]
      exact ⟨rfl, rfl⟩
  refine ⟨earned.claims, ?_, ?_, ?_⟩
  · intro entry pending
    rw [(state entry).1] at pending
    rw [(state entry).2]
    obtain ⟨never, none⟩ := earned.pending entry pending
    refine ⟨never, fun outcome there => ?_⟩
    rcases List.mem_append.mp there with old | new
    · exact none outcome old
    · cases List.mem_singleton.mp new
  · intro entry channels ready
    rw [(state entry).1] at ready
    exact List.mem_append_left _ (earned.ready entry channels ready)
  · intro c there
    rcases slot c.2.entry with same | ⟨on, -⟩
    · rw [same]
      exact (earned.calls c there).imp_right (.imp_right (List.mem_append_left _))
    · rw [on]
      exact .inr (.inr (List.mem_append_right _ (List.mem_singleton.mpr rfl)))

theorem restart (earned : w.Earned endings) (inRuntime : Bool) :
    w.restart.Earned (endings ++ w.ending (.command inRuntime .restart)) := by
  have each (flights : List Flight) (r : Registry (List Channel)) (endings : List Ending)
      (earned : Earned { w with registry := r, flights } endings) :
      Earned { w with registry := flights.foldl (fun r f => r.release f.claim) r, flights := [] }
        (endings ++ flights.map fun f => ⟨f.claim.entry, none⟩) := by
    induction flights generalizing r endings with
    | nil => exact (List.append_nil endings).symm ▸ earned
    | cons f flights ih =>
      rw [List.map_cons, List.append_cons]
      exact ih _ _ (earned.release f.claim flights)
  exact each w.flights w.registry endings earned

theorem turn (earned : w.Earned endings) (ready : w.Ready) {turn : Turn} (usual : turn.isUsual = true) :
    (w.turn turn).Earned (endings ++ w.ending turn) := by
  have same : endings ++ [] = endings := List.append_nil endings
  have becomes := becomes_turn ready turn
  cases turn with
  | fly place => exact earned.fly ready.toIntact place
  | poll inRuntime place => exact same.symm ▸ earned.leaves becomes.leaves
  | command inRuntime command =>
    cases command with
    | restart => exact earned.restart inRuntime
    | claim | claimKept => cases usual
    | settle name state =>
      have unchanged : w.turn (.command inRuntime (.settle name state)) = w := by
        simp [World.turn, step, withHandle, earned.claims, Names.get?]
      rw [unchanged]
      exact same.symm ▸ earned
    | dropClaim name =>
      have unchanged : w.turn (.command inRuntime (.dropClaim name)) = w := by
        simp [World.turn, step, withHandle, earned.claims, Names.get?]
      rw [unchanged]
      exact same.symm ▸ earned
    | _ => exact same.symm ▸ earned.leaves becomes.leaves

theorem turns (earned : w.Earned endings) (ready : w.Ready) (turns : List Turn)
    (usual : ∀ turn ∈ turns, turn.isUsual = true) : (w.turns turns).Earned (endings ++ w.endings turns) := by
  induction turns generalizing w endings with
  | nil => exact (List.append_nil endings).symm ▸ earned
  | cons turn turns ih =>
    obtain ⟨first, rest⟩ := List.forall_mem_cons.mp usual
    have later := ih (earned.turn ready first) (ready.turn turn) rest
    rw [List.append_assoc] at later
    exact later

end Earned

/-! ## What calls are given -/

/-- A slot at rest that was marked since its last fetch began can be claimed. -/
theorem Intact.canClaim_of_behind (intact : w.Intact) (idle : (w.registry.slot entry).isFetching = false)
    (behind : (w.registry.slot entry).settledGeneration < (w.registry.slot entry).generation) :
    (w.registry.slot entry).canClaim = true := by
  obtain ⟨caches, past, s, ran, shows⟩ := intact.shown
  have registry : s.registry = w.registry := shows.registry
  have stale : (w.registry.slot entry).isStale = true := by
    rw [← registry] at behind ⊢
    exact (told_run entry ran).isStale.mpr (.inl behind)
  simp [Slot.canClaim, idle, stale]

/-- A slot cannot be claimed once a call has tried to within a runtime. -/
theorem not_canClaim_startFetch (feed : Feed) (made : entry < w.registry.cells.length) :
    ((w.startFetch true feed entry).2.registry.slot entry).canClaim = false := by
  unfold startFetch
  cases asked : Call.claim? true w.registry entry with
  | none => exact Registry.claim?_eq_none.mp asked
  | some granted =>
    obtain ⟨claim, r⟩ := granted
    change (r.slot entry).canClaim = false
    rw [(slot_claimed made asked).2]
    rfl

/-- A call that ends within a runtime has looked at a slot at rest that is new enough. -/
theorem Polls.ended_of_done {c : Call} {state : ChannelState} (polls : Polls w true c (.done state, w'))
    (intact : w.Intact) (since : c.since ≤ (w.registry.slot c.entry).generation) :
    (w.registry.slot c.entry).isFetching = false ∧ c.since ≤ (w.registry.slot c.entry).settledGeneration ∧
      state = (w.registry.slot c.entry).state := by
  cases polls with
  | ended idle enough => exact ⟨idle, enough, rfl⟩
  | outdated idle old refused =>
    have can := intact.canClaim_of_behind idle (Nat.lt_of_lt_of_le old since)
    rw [Registry.claim?_eq_none.mp refused] at can
    cases can

theorem done_of_answer {c : Call} {inRuntime : Bool} {result : Except Failure (List Channel)}
    (given : (w.pollCall inRuntime c).1.answer = .result result) :
    ∃ state w', w.advance inRuntime c maxAccesses = (.done state, w') ∧
      c.feed.options.policy.resolve state = result := by
  unfold pollCall at given
  generalize w.advance inRuntime c maxAccesses = advanced at given ⊢
  obtain ⟨polled, w'⟩ := advanced
  cases polled with
  | pending rest => cases given
  | done state =>
    cases given
    exact ⟨state, w', rfl, rfl⟩

/-- Channels that are given under the policy to surface failures were in the slot, or nothing was known. -/
theorem resolve_surface {state : ChannelState} {channels : List Channel}
    (given : FailurePolicy.surface.resolve state = .ok channels) :
    state = .ready channels ∨ state = .pending ∧ channels = [] := by
  cases state with
  | pending =>
    cases given
    exact .inr ⟨rfl, rfl⟩
  | ready list =>
    cases given
    exact .inl rfl
  | failed text => cases given

/-- A new call that is given channels at once is given what a fetch has brought. -/
theorem Earned.starting {endings : List Ending} {c : Call} {channels : List Channel} (earned : w.Earned endings)
    (intact : w.Intact) (made : c.entry < w.registry.cells.length) (phase : c.phase = .starting)
    (since : c.since ≤ (w.registry.slot c.entry).generation) (surfaces : c.feed.options.policy = .surface)
    (given : (w.pollCall true c).1.answer = .result (.ok channels)) :
    ⟨c.entry, some (.ok channels)⟩ ∈ endings := by
  obtain ⟨state, w', done, resolved⟩ := done_of_answer given
  have started : Changes False 0 w _ := changes_startFetch true c.feed (.inr (Nat.zero_le _)) made
  have polls := polls_starting true made phase
  rw [done] at polls
  have since' := Nat.le_trans since (started.precedes c.entry).1.generation
  obtain ⟨idle, -, same⟩ := polls.ended_of_done (intact.startFetch made true c.feed) since'
  rw [surfaces] at resolved
  rcases resolve_surface resolved with rfl | ⟨rfl, -⟩
  · exact (earned.leaves started.leaves).ready c.entry channels same.symm
  · have cannot := not_canClaim_startFetch c.feed made
    have pending : ((w.startFetch true c.feed c.entry).2.registry.slot c.entry).state = .pending := same.symm
    have idle : ((w.startFetch true c.feed c.entry).2.registry.slot c.entry).isFetching = false := idle
    rw [Slot.canClaim, idle, pending] at cannot
    cases cannot

/-- A call in line that is given channels is given what a fetch has brought, unless it is content with any state, nothing
is known, and a fetch of its slot was dropped. -/
theorem Earned.waiting {endings : List Ending} {c : Call} {name : String} {channels : List Channel}
    (earned : w.Earned endings) (ready : w.Ready) (there : (name, c) ∈ w.calls)
    (surfaces : c.feed.options.policy = .surface)
    (given : (w.pollCall true c).1.answer = .result (.ok channels)) :
    ⟨c.entry, some (.ok channels)⟩ ∈ endings ∨
      channels = [] ∧ c.since = 0 ∧ ⟨c.entry, none⟩ ∈ endings ∧ ∀ outcome, ⟨c.entry, some outcome⟩ ∉ endings := by
  obtain ⟨state, w', done, resolved⟩ := done_of_answer given
  have polls := polls_waiting true (ready.calls _ there) (ready.waits _ there)
  rw [done] at polls
  obtain ⟨idle, enough, same⟩ := polls.ended_of_done ready.toIntact (ready.waits _ there).since
  rw [surfaces] at resolved
  rcases resolve_surface resolved with rfl | ⟨rfl, rfl⟩
  · exact .inl (earned.ready c.entry channels same.symm)
  · obtain ⟨never, none⟩ := earned.pending c.entry same.symm
    rcases earned.calls _ there with busy | known | dropped
    · rw [idle] at busy
      cases busy
    · exact absurd same.symm known
    · exact .inr ⟨rfl, Nat.le_zero.mp (never ▸ enough), dropped, none⟩

/-- Under the policy to surface failures a call is given channels that a fetch of its slot has brought, or the empty list
if nothing is known and a fetch of its slot was dropped. That is so however the accesses of many threads are mixed, if
all fetches that end bring something; and of the turns of a world it can only be a poll of a load, before any fetch of
the slot has ended but by being dropped. -/
theorem surfaced_channels_were_fetched (c : Call) (channels : List Channel)
    (surfaces : c.feed.options.policy = .surface) :
    (∀ {caches : Nat} {past : List (Access (List Channel))} {s t : Shared (List Channel)} {moves : List Move}
        {state : ChannelState},
      (Shared.start caches).run past = some s → c.phase = .starting → Among s c moves t (.done state) →
      (∀ h left, .settle h left ∈ Move.accesses moves ++ past → left ≠ .pending) →
      c.feed.options.policy.resolve state = .ok channels →
      (∃ h, h.claim.entry = c.entry ∧ .settle h (.ready channels) ∈ Move.accesses moves ++ past) ∨
        channels = [] ∧ ∃ h, h.claim.entry = c.entry ∧ h.isSettled = false ∧ .drop h ∈ Move.accesses moves ++ past) ∧
    ∀ (network : Http.Network) (caches : Nat) (feeds : List Feed) (past : List Turn) (turn : Turn),
      (∀ t ∈ past ++ [turn], t.isUsual = true) → ((start network caches feeds).turns past).caller? turn = some c →
      ((start network caches feeds).turns past).answer turn = .result (.ok channels) →
      ⟨c.entry, some (.ok channels)⟩ ∈ (start network caches feeds).endings past ∨
        channels = [] ∧ c.since = 0 ∧ (∃ place, turn = .poll true place) ∧
          ⟨c.entry, none⟩ ∈ (start network caches feeds).endings past ∧
          ∀ outcome, ⟨c.entry, some outcome⟩ ∉ (start network caches feeds).endings past := by
  refine ⟨?_, ?_⟩
  · intro caches past s t moves state ran begun among known resolved
    have owed : Owed c.entry (Move.accesses moves ++ past) state := among.owes ran begun
    rw [surfaces] at resolved
    rcases resolve_surface resolved with rfl | ⟨rfl, rfl⟩
    · cases owed with
      | settled on there => exact .inl ⟨_, on, there⟩
    · cases owed with
      | settled on there => exact absurd rfl (known _ _ there)
      | dropped on unsettled there => exact .inr ⟨rfl, _, on, unsettled, there⟩
  · intro network caches feeds past turn usual calls given
    obtain ⟨before, now⟩ := List.forall_mem_append.mp usual
    have inTurn := now turn (List.mem_singleton.mpr rfl)
    have ready := (ready_start network caches feeds).turns past
    have earned := (Earned.start network caches feeds).turns (ready_start network caches feeds) past before
    rw [List.nil_append] at earned
    generalize (start network caches feeds).turns past = w at calls given ready earned
    generalize (start network caches feeds).endings past = endings at earned ⊢
    cases turn with
    | fly place => cases calls
    | poll inRuntime place =>
      obtain ⟨⟨name, _⟩, there, rfl⟩ := Option.map_eq_some_iff.mp calls
      obtain rfl : inRuntime = true := inTurn
      simp only [answer, there] at given
      rcases earned.waiting ready (List.mem_of_getElem? there) surfaces given with fetched | ⟨none, any, dropped, never⟩
      · exact .inl fetched
      · exact .inr ⟨none, any, ⟨place, rfl⟩, dropped, never⟩
    | command inRuntime command =>
      refine .inl ?_
      cases command with
      | load number name =>
        obtain ⟨feed, there, rfl⟩ := Option.map_eq_some_iff.mp calls
        obtain rfl : inRuntime = true := inTurn
        have found : Changes False 0 w _ := changes_entry w feed
        obtain ⟨intact, made⟩ := ready.toIntact.entry feed
        simp only [answer, step, there, withHandle, load, answer_begin] at given
        exact (earned.leaves found.leaves).starting intact made rfl (Nat.zero_le _) surfaces given
      | refetch number name =>
        obtain ⟨feed, there, rfl⟩ := Option.map_eq_some_iff.mp calls
        obtain rfl : inRuntime = true := inTurn
        obtain ⟨intact, made⟩ := ready.toIntact.entry feed
        have marked : Changes False 0 w _ := (changes_entry w feed).tail (.mark (.inr (Nat.zero_le _)) made)
        simp only [answer, step, there, withHandle, refetch, answer_begin] at given
        refine (earned.leaves marked.leaves).starting (intact.markStale made) ?_ rfl (Nat.le_refl _) surfaces given
        rw [Registry.markStale, Registry.length_update]
        exact made
      | _ => cases calls

/-! ## A run in which channels are given that no fetch has brought -/

namespace MadeUp

open OldResult (shared)

def feed : Feed := .onLocalhost ⟨false, false, .surface⟩

/-- The fetch that the load has started is dropped while the load waits for it. -/
def past : List Turn := [.command true (.load 0 "load"), .command true .restart]

theorem endings_past : (start (.answering []) 1 [feed]).endings past = [⟨0, none⟩] := rfl

/-- The claim that the load takes among threads. -/
def claim : Held := ⟨0, ⟨0, 0⟩, false⟩

/-- Another thread drops the fetch before the load looks at the slot. -/
def moves : List Move := [⟨true, .read⟩, ⟨false, .drop claim⟩, ⟨true, .claim claim⟩]

theorem among :
    Among (shared 0 .fresh [] 0) (.load feed 0) moves (shared 2 ⟨.pending, false, true, 0, 0⟩ [] 1) (.done .pending) := by
  have claimed := Among.own .start
    (rfl : (shared 0 .fresh [] 0).step ((Call.load feed 0).nextAccess _) =
      some (shared 1 ⟨.pending, true, false, 0, 0⟩ [claim] 1))
  have dropped := claimed.other (rfl : Shared.step _ (.drop claim) =
    some (shared 2 ⟨.pending, false, true, 0, 0⟩ [] 1))
  exact dropped.own rfl

end MadeUp

/-- A load whose fetch is dropped while it waits is given an empty list, also under the policy to surface failures. -/
theorem surfaced_channels_can_be_made_up :
    ¬∀ (network : Http.Network) (caches : Nat) (feeds : List Feed) (past : List Turn) (turn : Turn) (c : Call)
        (channels : List Channel),
      (∀ t ∈ past ++ [turn], t.isUsual = true) → ((start network caches feeds).turns past).caller? turn = some c →
      c.feed.options.policy = .surface →
      ((start network caches feeds).turns past).answer turn = .result (.ok channels) →
      ⟨c.entry, some (.ok channels)⟩ ∈ (start network caches feeds).endings past := by
  intro always
  have fetched := always (.answering []) 1 [MadeUp.feed] MadeUp.past (.poll true 0) _ [] (by decide) rfl rfl rfl
  rw [MadeUp.endings_past] at fetched
  cases List.mem_singleton.mp fetched

/-- In that run the fetch was dropped, and no other has ended. -/
theorem dropped_in_madeUp :
    (∃ h : Held, h.claim.entry = 0 ∧ h.isSettled = false ∧
      .drop h ∈ Move.accesses MadeUp.moves ++ [.add 0 "channels"]) ∧
    ⟨0, none⟩ ∈ (start (.answering []) 1 [MadeUp.feed]).endings MadeUp.past := by
  refine ⟨?_, ?_⟩
  · have ran : (Shared.start 1).run [.add 0 "channels"] = some (OldResult.shared 0 .fresh [] 0) := rfl
    have unsettled : ∀ h left, .settle h left ∉ Move.accesses MadeUp.moves ++ [.add 0 "channels"] := by
      intro h left there
      simp [MadeUp.moves, Move.accesses] at there
    have given : MadeUp.feed.options.policy.resolve .pending = .ok [] := rfl
    rcases (surfaced_channels_were_fetched (.load MadeUp.feed 0) [] rfl).1 ran rfl MadeUp.among
      (fun h left there => absurd there (unsettled h left)) given with ⟨h, -, there⟩ | ⟨-, dropped⟩
    · exact absurd there (unsettled h _)
    · exact dropped
  · rcases (surfaced_channels_were_fetched _ [] rfl).2 (.answering []) 1 [MadeUp.feed] MadeUp.past (.poll true 0)
      (by decide) rfl rfl with fetched | ⟨-, -, -, dropped, -⟩
    · rw [MadeUp.endings_past] at fetched
      cases List.mem_singleton.mp fetched
    · exact dropped

end World

end ChannelFeed
