import ChannelFeed.Proofs.Feed.Refetching

/-!
# Notifications

A notification refreshes a slot of which something is known, and nothing else. If a fetch is on its way by then, what
it brings is out of date before it comes: whatever happens meanwhile, the slot is stale when the fetch has ended, and
whoever asks for the channels next within a runtime starts another one. Main statement:
`notifications_refresh_what_is_known`.
-/
namespace ChannelFeed

open Cache

namespace World

variable {w : World} {entry : EntryId} {since : Nat} {inRuntime : Bool} {feed : Feed} {number : Nat} {trigger : Trigger}

/-- Whether a turn is a notification of a feed that refreshes nothing. -/
def isIdle (w : World) : Turn → Bool
  | .command _ (.notify number trigger) => (w.feeds[number]?).any fun feed => (w.refreshed? feed trigger).isNone
  | _ => false

/-- What is heard in some turns, one after the other. -/
def answers (w : World) : List Turn → List Answer
  | [] => []
  | turn :: rest => w.answer turn :: (w.turn turn).answers rest

/-- Some turns and what is heard in them, without the notifications that refresh nothing when they come. -/
def telling (w : World) : List Turn → List (Turn × Answer)
  | [] => []
  | turn :: rest =>
    if w.isIdle turn then (w.turn turn).telling rest else (turn, w.answer turn) :: (w.turn turn).telling rest

/-- A notification that refreshes nothing is told so, and nothing happens. -/
theorem notify_idle (known : w.feeds[number]? = some feed) (none : w.refreshed? feed trigger = none)
    (inRuntime : Bool) :
    w.turn (.command inRuntime (.notify number trigger)) = w ∧
      w.answer (.command inRuntime (.notify number trigger)) = .flag false := by
  simp only [World.turn, World.answer, World.step, known, withHandle, notify_eq, none, and_self]

theorem turn_of_isIdle {turn : Turn} (idle : w.isIdle turn = true) : w.turn turn = w := by
  unfold isIdle at idle
  split at idle
  · next inRuntime number trigger =>
    cases known : w.feeds[number]? with
    | none =>
      rw [known] at idle
      cases idle
    | some feed =>
      rw [known] at idle
      exact (notify_idle known (Option.isNone_iff_eq_none.mp idle) inRuntime).1
  · cases idle

/-- Without the notifications that refresh nothing the same is heard in all other turns, and the same world is left. -/
theorem telling_eq (w : World) (turns : List Turn) :
    w.answers ((w.telling turns).map Prod.fst) = (w.telling turns).map Prod.snd ∧
      w.turns ((w.telling turns).map Prod.fst) = w.turns turns := by
  induction turns generalizing w with
  | nil => exact ⟨rfl, rfl⟩
  | cons turn rest ih =>
    obtain ⟨heard, left⟩ := ih (w.turn turn)
    cases idle : w.isIdle turn with
    | true =>
      rw [telling, if_pos idle]
      rw [turn_of_isIdle idle] at heard left ⊢
      refine ⟨heard, left.trans ?_⟩
      rw [turns, turn_of_isIdle idle]
    | false =>
      rw [telling, if_neg (Bool.eq_false_iff.mp idle)]
      exact ⟨congrArg (w.answer turn :: ·) heard, left⟩

theorem startFetch_stale (feed : Feed) (stale : (w.registry.slot entry).isStale = true) (inRuntime : Bool) :
    w.startFetch inRuntime feed entry =
      if inRuntime = true ∧ (w.registry.slot entry).isFetching = false then
        (true, launch { w with registry := w.registry.update entry Slot.claimed } feed
          (some ⟨entry, (w.registry.slot entry).generation⟩))
      else (false, w) := by
  have can : (w.registry.slot entry).canClaim = !(w.registry.slot entry).isFetching := by
    rw [Slot.canClaim, stale, Bool.or_true, Bool.and_true]
  unfold startFetch Call.claim? Registry.claim?
  rw [can]
  cases inRuntime with
  | false => rfl
  | true => cases (w.registry.slot entry).isFetching <;> rfl

/-- What a notification comes to that refreshes a slot. -/
structure Refreshes (w : World) (inRuntime : Bool) (number : Nat) (trigger : Trigger) (feed : Feed) (entry : EntryId) :
    Prop where
  slot : (w.turn (.command inRuntime (.notify number trigger))).registry.slot entry =
    { w.registry.slot entry with
      isStale := true
      generation := (w.registry.slot entry).generation + 1
      isFetching := (w.registry.slot entry).isFetching || inRuntime }
  others : ∀ other, other ≠ entry →
    (w.turn (.command inRuntime (.notify number trigger))).registry.cell other = w.registry.cell other
  keys : (w.turn (.command inRuntime (.notify number trigger))).registry.caches = w.registry.caches
  answer : ∃ started, w.answer (.command inRuntime (.notify number trigger)) = .flag started ∧
    (started = true ↔ inRuntime = true ∧ w.claimsOn entry = [])
  flights : (w.turn (.command inRuntime (.notify number trigger))).flights =
    if inRuntime = true ∧ w.claimsOn entry = [] then
      w.flights ++ [.start feed ⟨entry, (w.registry.slot entry).generation + 1⟩]
    else w.flights
  left : w.turn (.command inRuntime (.notify number trigger)) =
    { w with
      registry := (w.turn (.command inRuntime (.notify number trigger))).registry
      flights := (w.turn (.command inRuntime (.notify number trigger))).flights }

/-- The world in which a slot has been marked. -/
def marked (w : World) (entry : EntryId) : World := { w with registry := (w.registry.markStale entry).2 }

theorem slot_marked (made : entry < w.registry.cells.length) :
    (w.marked entry).registry.slot entry = (w.registry.slot entry).markedStale :=
  (w.registry.slot_update entry Slot.markedStale made).trans (if_pos rfl)

theorem cell_marked {other : EntryId} (apart : other ≠ entry) :
    (w.marked entry).registry.cell other = w.registry.cell other :=
  w.registry.cell_update_of_ne Slot.markedStale apart

theorem step_notify (known : w.feeds[number]? = some feed) (refreshed : w.refreshed? feed trigger = some entry)
    (made : entry < w.registry.cells.length) (inRuntime : Bool) :
    w.step inRuntime (.notify number trigger) =
      if inRuntime = true ∧ (w.registry.slot entry).isFetching = false then
        (.flag true, launch { w.marked entry with registry := (w.marked entry).registry.update entry Slot.claimed } feed
          (some ⟨entry, (w.registry.slot entry).generation + 1⟩))
      else (.flag false, w.marked entry) := by
  have slot := slot_marked made
  have comes : w.notify inRuntime feed trigger = (w.marked entry).startFetch inRuntime feed entry := by
    rw [notify_eq, refreshed]
    rfl
  rw [startFetch_stale feed (by rw [slot]; rfl), slot] at comes
  change _ = if inRuntime = true ∧ (w.registry.slot entry).isFetching = false then _ else _ at comes
  simp only [World.step, known, withHandle, comes]
  by_cases starts : inRuntime = true ∧ (w.registry.slot entry).isFetching = false
  · simp only [if_pos starts]
    rfl
  · simp only [if_neg starts]

theorem Intact.refreshes (intact : w.Intact) (known : w.feeds[number]? = some feed)
    (refreshed : w.refreshed? feed trigger = some entry) (inRuntime : Bool) :
    w.Refreshes inRuntime number trigger feed entry := by
  have made := intact.closed.get?_lt (refreshed?_eq_some refreshed).1
  have comes := step_notify known refreshed made inRuntime
  have made' : entry < (w.marked entry).registry.cells.length := by
    rw [World.marked, Registry.markStale, Registry.length_update]
    exact made
  have slot := slot_marked made
  have free := intact.claimsOn_eq_nil entry
  have told : w.answer (.command inRuntime (.notify number trigger)) = _ := congrArg Prod.fst comes
  have goes : w.turn (.command inRuntime (.notify number trigger)) = _ := congrArg Prod.snd comes
  by_cases starts : inRuntime = true ∧ (w.registry.slot entry).isFetching = false
  · rw [if_pos starts] at told goes
    obtain ⟨rfl, idle⟩ := starts
    refine ⟨?_, ?_, ?_, ⟨true, told, by simp [free, idle]⟩, ?_, ?_⟩
    · rw [goes]
      refine ((w.marked entry).registry.slot_update entry Slot.claimed made').trans ?_
      rw [if_pos rfl, slot, Bool.or_true]
      rfl
    · intro other apart
      rw [goes]
      exact ((w.marked entry).registry.cell_update_of_ne Slot.claimed apart).trans (cell_marked apart)
    · rw [goes]; rfl
    · rw [goes, if_pos ⟨rfl, free.mpr idle⟩]; rfl
    · rw [goes]; rfl
  · rw [if_neg starts] at told goes
    have busy : ¬ (inRuntime = true ∧ w.claimsOn entry = []) := by rwa [free]
    refine ⟨?_, ?_, ?_, ⟨false, told, by simpa using busy⟩, ?_, ?_⟩
    · have kept : (w.registry.slot entry).isFetching = ((w.registry.slot entry).isFetching || inRuntime) := by
        cases inRuntime with
        | false => rw [Bool.or_false]
        | true => simpa using starts
      rw [goes, slot, ← kept]
      rfl
    · intro other apart
      rw [goes]
      exact cell_marked apart
    · rw [goes]; rfl
    · rw [goes, if_neg busy]; rfl
    · rw [goes]; rfl

/-- What is in a slot was fetched before a generation that the slot has reached, and nothing is on its way. -/
structure Overdue (w : World) (entry : EntryId) (since : Nat) : Prop where
  free : w.claimsOn entry = []
  old : (w.registry.slot entry).settledGeneration < since
  reached : since ≤ (w.registry.slot entry).generation

/-- A slot whose state was not fetched at its generation is stale. -/
theorem Intact.isStale_of_old (intact : w.Intact)
    (old : (w.registry.slot entry).settledGeneration < (w.registry.slot entry).generation) :
    (w.registry.slot entry).isStale = true := by
  obtain ⟨caches, past, s, ran, shows⟩ := intact.shown
  have told := (told_run entry ran).isStale
  rw [shows.registry] at told
  exact told.mpr (.inl old)

/-- A command by which the channels of a feed are asked for. -/
inductive Asks (number : Nat) : Command → Prop where
  | channels : Asks number (.channels number)
  | load (name : String) : Asks number (.load number name)
  | refetch (name : String) : Asks number (.refetch number name)
  | subscribe (name : String) : Asks number (.subscribe number name)

/-- Whoever asks for what is overdue, within a runtime, starts one fetch. It is begun late enough. -/
theorem Overdue.fetches (overdue : w.Overdue entry since) (intact : w.Intact) (known : w.feeds[number]? = some feed)
    (leads : w.registry.get? feed.cache channelsKey = some entry) {command : Command} (asks : Asks number command) :
    ∃ generation, since ≤ generation ∧
      (w.turn (.command true command)).flights = w.flights ++ [.start feed ⟨entry, generation⟩] := by
  have made := intact.closed.get?_lt leads
  have idle := (intact.claimsOn_eq_nil entry).mp overdue.free
  have stale := intact.isStale_of_old (Nat.lt_of_lt_of_le overdue.old overdue.reached)
  have started := startFetch_stale feed stale true
  rw [if_pos ⟨rfl, idle⟩] at started
  cases asks with
  | channels =>
    refine ⟨_, overdue.reached, ?_⟩
    simp only [World.turn, World.step, known, withHandle, World.channels, entry_of_get? leads, started]
    rfl
  | load name =>
    obtain ⟨-, rest, -, goes⟩ := begin_stale (c := .load feed entry) made rfl stale name
    refine ⟨_, overdue.reached, ?_⟩
    simp only [World.turn, World.step, known, withHandle, World.load, entry_of_get? leads, goes]
    change (w.startFetch true feed entry).2.flights = _
    rw [started]
    rfl
  | refetch name =>
    have made' : entry < (w.marked entry).registry.cells.length :=
      Nat.lt_of_lt_of_le made (keeps_markStale made).grows
    have slot := slot_marked made
    have stale' : ((w.marked entry).registry.slot entry).isStale = true := by rw [slot]; rfl
    have idle' : ((w.marked entry).registry.slot entry).isFetching = false := by rw [slot]; exact idle
    have started' := startFetch_stale feed stale' true
    rw [if_pos ⟨rfl, idle'⟩, slot] at started'
    obtain ⟨-, rest, -, goes⟩ := begin_stale (w := w.marked entry)
      (c := .refetch feed entry (w.registry.markStale entry).1) made' rfl stale' name
    refine ⟨(w.registry.slot entry).generation + 1, Nat.le_succ_of_le overdue.reached, ?_⟩
    simp only [World.turn, World.step, known, withHandle, World.refetch, entry_of_get? leads]
    change ((w.marked entry).begin true name (.refetch feed entry (w.registry.markStale entry).1)).2.flights = _
    rw [goes]
    change ((w.marked entry).startFetch true feed entry).2.flights = _
    rw [started']
    rfl
  | subscribe name =>
    refine ⟨_, overdue.reached, ?_⟩
    simp only [World.turn, World.step, known, withHandle, World.subscribe, entry_of_get? leads, started]
    rfl

theorem isSettlement_of_mem_commandLog {command : Command} {operation : Operation (List Channel)}
    (other : ∀ name state, command ≠ .settle name state) (there : (entry, operation) ∈ w.commandLog inRuntime command) :
    operation.isSettlement = false := by
  cases command with
  | restart =>
    obtain ⟨f, -, ⟨⟩⟩ := List.mem_map.mp there
    rfl
  | channels number | subscribe number name =>
    obtain ⟨feed, -, asked⟩ := mem_feedLog there
    rw [(mem_fetchLog.mp asked).2.2]; rfl
  | load number name =>
    obtain ⟨feed, -, polled⟩ := mem_feedLog there
    rw [(eq_claim_of_mem_log polled).2]; rfl
  | refetch number name =>
    obtain ⟨feed, -, done⟩ := mem_feedLog there
    rcases List.mem_cons.mp done with marked | polled
    · cases marked
      rfl
    · rw [(eq_claim_of_mem_log polled).2]; rfl
  | invalidate number =>
    obtain ⟨feed, -, marked⟩ := mem_feedLog there
    rw [(mem_markLog.mp marked).2]; rfl
  | notify number trigger =>
    obtain ⟨feed, -, done⟩ := mem_feedLog there
    split at done
    · rcases List.mem_cons.mp done with marked | asked
      · cases marked
        rfl
      · rw [(mem_fetchLog.mp asked).2.2]; rfl
    · cases done
  | cacheInvalidate cache key => rw [(mem_markLog.mp there).2]; rfl
  | claim cache name => exact Promises.isSettlement_of_mem_claimLog there
  | mark name =>
    obtain ⟨kept, -, marked⟩ := mem_of_mem_keptLog there
    cases List.mem_singleton.mp marked
    rfl
  | claimKept under name =>
    obtain ⟨kept, -, asked⟩ := mem_of_mem_keptLog there
    exact Promises.isSettlement_of_mem_claimLog asked
  | settle name state => exact absurd rfl (other name state)
  | dropClaim name => rw [(mem_giveUpLog.mp there).2]; rfl
  | _ => cases there

/-- An operation that brings the result of a fetch is all that is done in its turn, and the claim of the fetch was
held. -/
theorem settlement_of_mem_log {turn : Turn} {generation : Nat} {state : ChannelState}
    (there : (entry, .settle generation state) ∈ w.log turn) :
    ⟨entry, generation⟩ ∈ w.claimsOn entry ∧ w.log turn = [(entry, .settle generation state)] := by
  cases turn with
  | poll inRuntime place =>
    unfold log at there
    dsimp only at there
    split at there
    · cases (eq_claim_of_mem_log there).2
    · cases there
  | fly place =>
    unfold log at there ⊢
    dsimp only at there ⊢
    split at there
    · next f flies =>
      obtain ⟨fetched, known, ⟨⟩⟩ := List.mem_map.mp there
      have holds : f.claim ∈ w.custody.claims :=
        List.mem_append_left _ (List.mem_map_of_mem (List.mem_of_getElem? flies))
      refine ⟨mem_claimsOn.mpr ⟨holds, rfl⟩, ?_⟩
      rw [Option.mem_toList.mp known]
      rfl
    · cases there
  | command inRuntime command =>
    unfold log at there ⊢
    by_cases byHand : ∃ name state, command = .settle name state
    · obtain ⟨name, brought, rfl⟩ := byHand
      simp only [commandLog] at there ⊢
      cases found : w.claims.get? name with
      | none =>
        rw [found] at there
        cases there
      | some claim =>
        rw [found] at there
        cases List.mem_singleton.mp there
        exact ⟨mem_claimsOn.mpr ⟨List.mem_append_right _ (Names.mem_things_of_get? found), rfl⟩, rfl⟩
    · cases isSettlement_of_mem_commandLog (fun name state is => byHand ⟨name, state, is⟩) there

theorem isFetching_replay {operations : List (Operation (List Channel))} (c : Cell (List Channel))
    (unasked : .claim ∉ operations) (idle : c.slot.isFetching = false) :
    (replay c operations).slot.isFetching = false := by
  induction operations generalizing c with
  | nil => exact idle
  | cons operation operations ih =>
    rw [List.mem_cons, not_or] at unasked
    refine ih (operation.on c) unasked.2 ?_
    cases operation with
    | claim => exact absurd rfl unasked.1
    | mark => exact idle
    | settle generation state => rfl
    | release => rfl

theorem Overdue.turn (overdue : w.Overdue entry since) (ready : w.Ready) {turn : Turn}
    (unasked : (entry, .claim) ∉ w.log turn) : (w.turn turn).Overdue entry since := by
  have cell : (w.turn turn).registry.cell entry = _ := ready.toIntact.follows (keeps_turn ready.toIntact turn) entry
  have idle := (ready.toIntact.claimsOn_eq_nil entry).mp overdue.free
  refine ⟨?_, ?_, ?_⟩
  · refine ((ready.toIntact.turn turn).claimsOn_eq_nil entry).mpr ?_
    rw [Registry.slot, cell]
    exact isFetching_replay _ (fun there => unasked (Log.mem_on.mp there)) idle
  · rw [Registry.slot, cell, settledGeneration_replay]
    · exact overdue.old
    · intro operation there
      cases operation with
      | settle generation state =>
        have holds := (settlement_of_mem_log (Log.mem_on.mp there)).1
        rw [overdue.free] at holds
        cases holds
      | _ => rfl
  · exact Nat.le_trans overdue.reached ((becomes_turn ready turn).precedes entry).1.generation

theorem Overdue.turns (overdue : w.Overdue entry since) (ready : w.Ready) {turns : List Turn}
    (unasked : (entry, .claim) ∉ w.logs turns) : (w.turns turns).Overdue entry since := by
  induction turns generalizing w with
  | nil => exact overdue
  | cons turn turns ih =>
    rw [logs, List.mem_append, not_or] at unasked
    exact ih (overdue.turn ready unasked.1) (ready.turn turn) unasked.2

/-- A fetch that ends was begun before the slot was marked. What it brought is stale, and overdue. -/
theorem Ready.overdue_of_settled (ready : w.Ready) (marked : since ≤ (w.registry.slot entry).generation) {turn : Turn}
    {generation : Nat} {state : ChannelState} (early : generation < since)
    (ends : (entry, .settle generation state) ∈ w.log turn) :
    (w.turn turn).registry.slot entry = ⟨state, false, true, (w.registry.slot entry).generation, generation⟩ ∧
      (w.turn turn).Overdue entry since := by
  obtain ⟨-, only⟩ := settlement_of_mem_log ends
  have cell : (w.turn turn).registry.cell entry = _ := ready.toIntact.follows (keeps_turn ready.toIntact turn) entry
  rw [only, Log.on_singleton, if_pos rfl] at cell
  have slot : (w.turn turn).registry.slot entry =
      ⟨state, false, true, (w.registry.slot entry).generation, generation⟩ := by
    have stale : ((w.registry.slot entry).generation != generation) = true := bne_iff_ne.mpr (by omega)
    rw [← stale]
    exact congrArg Cell.slot cell
  refine ⟨slot, ((ready.toIntact.turn turn).claimsOn_eq_nil entry).mpr ?_, ?_, ?_⟩
  · rw [slot]
  · rw [slot]
    exact early
  · rw [slot]
    exact marked

theorem Ready.generation_turns (ready : w.Ready) (entry : EntryId) (turns : List Turn) :
    (w.registry.slot entry).generation ≤ ((w.turns turns).registry.slot entry).generation := by
  induction turns generalizing w with
  | nil => exact Nat.le_refl _
  | cons turn turns ih =>
    exact Nat.le_trans ((becomes_turn ready turn).precedes entry).1.generation (ih (ready.turn turn))

/-- What comes of a slot that was marked while it was at a generation, with fetches on their way that were begun by
then. -/
structure Outdated (w : World) (entry : EntryId) (since : Nat) (claims : List Claim) : Prop where
  /-- The slot is stale until something is in it that was fetched since it was marked. -/
  stale : ∀ later, ((w.turns later).registry.slot entry).settledGeneration < since →
    ((w.turns later).registry.slot entry).isStale = true
  /-- A fetch that was on its way brings its result, but leaves the slot overdue. -/
  ended : ∀ claim ∈ claims, ∀ later turn state,
    (entry, .settle claim.generation state) ∈ (w.turns later).log turn →
      (((w.turns later).turn turn).registry.slot entry).state = state ∧
        (((w.turns later).turn turn).registry.slot entry).isStale = true ∧ ((w.turns later).turn turn).Overdue entry since
  /-- From then on whoever is the first to ask for the channels within a runtime starts a fetch. -/
  asked : ∀ later more, (w.turns later).Overdue entry since → (entry, .claim) ∉ (w.turns later).logs more →
    ∀ number feed command, ((w.turns later).turns more).feeds[number]? = some feed →
      ((w.turns later).turns more).registry.get? feed.cache channelsKey = some entry → Asks number command →
        ∃ generation, since ≤ generation ∧ (((w.turns later).turns more).turn (.command true command)).flights =
          ((w.turns later).turns more).flights ++ [.start feed ⟨entry, generation⟩]

theorem Ready.outdated (ready : w.Ready) (reached : since ≤ (w.registry.slot entry).generation) {claims : List Claim}
    (early : ∀ claim ∈ claims, claim.generation < since) : w.Outdated entry since claims := by
  have reached (later : List Turn) : since ≤ ((w.turns later).registry.slot entry).generation :=
    Nat.le_trans reached (ready.generation_turns entry later)
  refine ⟨fun later old => ?_, fun claim there later turn state ends => ?_, ?_⟩
  · exact (ready.turns later).toIntact.isStale_of_old (Nat.lt_of_lt_of_le old (reached later))
  · obtain ⟨slot, overdue⟩ := (ready.turns later).overdue_of_settled (reached later) (early claim there) ends
    exact ⟨by rw [slot], by rw [slot], overdue⟩
  · intro later more overdue unasked number feed command known leads asks
    have after := ready.turns later
    exact (overdue.turns after unasked).fetches (after.turns more).toIntact known leads asks

/-- A notification refreshes the slot of the channels if its feed heeds the trigger and something is known that can be
out of date. Otherwise it is told that no fetch was started and nothing happens, so that without all such notifications
the same is heard in all other turns of a run, and the same world is left.

A slot that is refreshed keeps its state and reaches its next generation, and nothing else changes but for a fetch that
begins at that generation if none is on its way and one can be started. A fetch that was on its way leaves the slot
overdue, whatever happens before it ends, and the next one who asks for the channels within a runtime starts another.
-/
theorem notifications_refresh_what_is_known (network : Http.Network) (caches : Nat) (feeds : List Feed) :
    (∀ (w : World) (turns : List Turn), w.answers ((w.telling turns).map Prod.fst) = (w.telling turns).map Prod.snd ∧
      w.turns ((w.telling turns).map Prod.fst) = w.turns turns) ∧
    ∀ (past : List Turn) (inRuntime : Bool) (number : Nat) (trigger : Trigger) (feed : Feed),
      let w := (start network caches feeds).turns past
      let notified := w.turn (.command inRuntime (.notify number trigger))
      w.feeds[number]? = some feed →
        (w.refreshed? feed trigger = none →
          notified = w ∧ w.answer (.command inRuntime (.notify number trigger)) = .flag false) ∧
        ∀ entry, w.refreshed? feed trigger = some entry →
          w.Refreshes inRuntime number trigger feed entry ∧
            notified.Outdated entry ((w.registry.slot entry).generation + 1) (w.claimsOn entry) := by
  refine ⟨telling_eq, ?_⟩
  intro past inRuntime number trigger feed w notified known
  have ready : w.Ready := (ready_start network caches feeds).turns past
  refine ⟨fun none => notify_idle known none inRuntime, fun entry refreshed => ?_⟩
  have refreshes := ready.toIntact.refreshes known refreshed inRuntime
  refine ⟨refreshes, (ready.turn _).outdated ?_ fun claim held => ?_⟩
  · exact Nat.le_of_eq (congrArg Slot.generation refreshes.slot).symm
  · exact Nat.lt_succ_of_le ((ready.toIntact.claimsOn_between held).2)

/-- A notification comes while a claim is held on a slot of which something is known. No fetch is started then, but what
the claim brings is stale, and the next one who asks starts a fetch at the generation of the notification. -/
theorem notified_while_claimed :
    let w := (start (.answering []) 1 [.onLocalhost ⟨true, false, .conceal⟩]).turns
      [.command true (.claim 0 "first"), .command true (.settle "first" (.ready [])), .command true (.invalidate 0),
        .command true (.claim 0 "second")]
    let notified := w.turn (.command true (.notify 0 .focus))
    let ended := notified.turn (.command true (.settle "second" (.ready [])))
    w.claimsOn 0 = [⟨0, 1⟩] ∧ w.answer (.command true (.notify 0 .focus)) = .flag false ∧
      notified.flights = w.flights ∧ (ended.registry.slot 0).isStale = true ∧
      ∃ generation, 2 ≤ generation ∧ (ended.turn (.command true (.channels 0))).flights =
        ended.flights ++ [.start (.onLocalhost ⟨true, false, .conceal⟩) ⟨0, generation⟩] := by
  intro w notified ended
  obtain ⟨refreshes, outdated⟩ :=
    ((notifications_refresh_what_is_known (.answering []) 1 [.onLocalhost ⟨true, false, .conceal⟩]).2
      [.command true (.claim 0 "first"), .command true (.settle "first" (.ready [])), .command true (.invalidate 0),
        .command true (.claim 0 "second")] true 0 .focus (.onLocalhost ⟨true, false, .conceal⟩) rfl).2 0 rfl
  have settles : (0, .settle 1 (.ready [])) ∈ notified.log (.command true (.settle "second" (.ready []))) :=
    List.mem_singleton.mpr rfl
  obtain ⟨-, stale, overdue⟩ := outdated.ended ⟨0, 1⟩ (List.mem_singleton.mpr rfl) [] _ _ settles
  refine ⟨rfl, rfl, refreshes.flights, stale, ?_⟩
  exact outdated.asked [.command true (.settle "second" (.ready []))] [] overdue List.not_mem_nil 0 _ _ rfl rfl .channels

end World

end ChannelFeed
