import ChannelFeed.Proofs.Feed.Notifying
import ChannelFeed.Proofs.Sharing.Economy

/-!
# How many fetches the turns of a world start

A turn gives a reason to fetch a slot once more if it marks it, if a claim on it is dropped, or if it is settled with
nothing by hand. To read, load or watch the channels is no reason, nor is the end of a fetch, so that it does not matter
how many ask for them. Main statement: `fetches_are_few`.
-/
namespace ChannelFeed

open Cache

namespace Cache

variable {α : Type}

/-- A reason that is there on a condition. -/
def Reason.when (reason : Reason) (condition : Bool) : Option Reason := if condition then some reason else none

theorem Operation.reason?_on {operation : Operation α} {reason : Reason} (gives : operation.reason? = some reason)
    (operated entry : EntryId) :
    (if operated = entry then operation.reason?.toList else []) = (reason.when (operated == entry)).toList := by
  by_cases same : operated = entry <;> simp [same, gives, Reason.when]

/-- Whether a fetch ends, with or without a result. -/
def Operation.ends : Operation α → Bool
  | .settle _ _ | .release => true
  | _ => false

/-- While no fetch ends, one is on its way once it has begun, and then no other begins. -/
theorem grants_of_going {operations : List (Operation α)} (c : Cell α)
    (going : ∀ operation ∈ operations, operation.ends = false) :
    (c.slot.isFetching = true → (replay c operations).slot.isFetching = true) ∧
      grants c operations = if !c.slot.isFetching && (replay c operations).slot.isFetching then 1 else 0 := by
  induction operations generalizing c with
  | nil =>
    refine ⟨id, ?_⟩
    cases found : c.slot.isFetching <;> simp [grants, replay, found]
  | cons operation operations ih =>
    obtain ⟨first, rest⟩ := List.forall_mem_cons.mp going
    obtain ⟨still, later⟩ := ih (operation.on c) rest
    rw [grants, later]
    change (_ → (replay (operation.on c) operations).slot.isFetching = true) ∧ _ =
      if !c.slot.isFetching && (replay (operation.on c) operations).slot.isFetching then 1 else 0
    cases operation with
    | claim =>
      cases can : c.slot.canClaim with
      | true =>
        have busy : (Operation.claim.on c).slot.isFetching = true := by
          rw [Operation.on, if_pos can]
          rfl
        have idle := Slot.isFetching_of_canClaim can
        refine ⟨fun _ => still busy, ?_⟩
        rw [busy, still busy, idle, Operation.isGranted, can]
        rfl
      | false =>
        have same : Operation.claim.on c = c := if_neg (Bool.eq_false_iff.mp can)
        rw [same] at still ⊢
        rw [Operation.isGranted, can, if_neg Bool.false_ne_true, Nat.zero_add]
        exact ⟨still, rfl⟩
    | mark =>
      have same : (Operation.mark.on c).slot.isFetching = c.slot.isFetching := rfl
      rw [same] at still ⊢
      exact ⟨still, Nat.zero_add _⟩
    | settle generation state => cases first
    | release => cases first

theorem grants_of_unasked {operations : List (Operation α)} (c : Cell α) (unasked : .claim ∉ operations) :
    grants c operations = 0 := by
  induction operations generalizing c with
  | nil => rfl
  | cons operation operations ih =>
    rw [List.mem_cons, not_or] at unasked
    rw [grants, ih _ unasked.2]
    cases operation with
    | claim => exact absurd rfl unasked.1
    | _ => rfl

theorem generation_replay (c : Cell α) (operations : List (Operation α)) :
    (replay c operations).slot.generation =
      c.slot.generation + (operations.filterMap Operation.reason?).count .marked := by
  induction operations generalizing c with
  | nil => rfl
  | cons operation operations ih =>
    refine (ih (operation.on c)).trans ?_
    cases operation with
    | claim =>
      rw [Operation.on]
      split <;> rfl
    | mark =>
      change c.slot.generation + 1 + _ = c.slot.generation + (Reason.marked :: _).count .marked
      rw [List.count_cons_self]
      omega
    | settle generation state =>
      cases known : state.isPending <;> simp [Operation.reason?, known, Operation.on, Cell.update, Slot.settled]
    | release => rfl

end Cache

namespace World

section
variable (w : World) (entry : EntryId)

/-- Whether the claim under a name is on the slot. -/
def isNamed (name : String) : Bool := (w.claims.get? name).any (·.entry == entry)

/-- The reason that a turn gives to fetch the slot once more. A claim that is taken by hand under a name in use drops
the one that was there. -/
def reason? : Turn → Option Reason
  | .command _ (.refetch number _) => Reason.marked.when ((w.feeds[number]?).any fun feed => (w.entry feed).1 == entry)
  | .command _ (.invalidate number) =>
    Reason.marked.when ((w.feeds[number]?).any fun feed => w.registry.get? feed.cache channelsKey == some entry)
  | .command _ (.notify number trigger) =>
    Reason.marked.when ((w.feeds[number]?).any fun feed => w.refreshed? feed trigger == some entry)
  | .command _ (.cacheInvalidate cache key) => Reason.marked.when (w.registry.get? cache key == some entry)
  | .command _ (.mark name) => Reason.marked.when (w.entries.get? name == some entry)
  | .command _ .restart => Reason.dropped.when (w.flights.any (·.claim.entry == entry))
  | .command _ (.dropClaim name) => Reason.dropped.when (w.isNamed entry name)
  | .command _ (.claim cache name) => Reason.dropped.when ((w.claim cache name).1 && w.isNamed entry name)
  | .command _ (.claimKept kept name) =>
    Reason.dropped.when ((w.entries.get? kept).any (fun asked => (w.claimEntry asked name).1) && w.isNamed entry name)
  | .command _ (.settle name state) => Reason.blanked.when (state.isPending && w.isNamed entry name)
  | _ => none

/-- Whether a fetch of the slot begins in a turn. -/
def begins (turn : Turn) : Bool :=
  !(w.registry.slot entry).isFetching && ((w.turn turn).registry.slot entry).isFetching

/-- The reasons that turns give to fetch the slot once more. -/
def reasons (w : World) : List Turn → List Reason
  | [] => []
  | turn :: rest => (w.reason? entry turn).toList ++ (w.turn turn).reasons rest

/-- How many fetches of the slot begin in turns. -/
def fetches (w : World) : List Turn → Nat
  | [] => 0
  | turn :: rest => (if w.begins entry turn then 1 else 0) + (w.turn turn).fetches rest

end

section
variable {w : World} {entry : EntryId} {name : String}

theorem claimEntry_fst (w : World) (asked : EntryId) (name : String) :
    (w.claimEntry asked name).1 = (w.registry.slot asked).canClaim := by
  unfold claimEntry
  cases granted : w.registry.claim? asked with
  | none => exact (Registry.claim?_eq_none.mp granted).symm
  | some taken => exact (Registry.claim?_eq_some.mp granted).1.symm

theorem isNamed_iff : w.isNamed entry name = true ↔ ∃ claim, w.claims.get? name = some claim ∧ claim.entry = entry := by
  simp [isNamed, Option.any_eq_true]

/-! ## The reasons in a log -/

theorem reasons_markLog (cache : Nat) (key : String) :
    (w.markLog cache key).reasons entry = (Reason.marked.when (w.registry.get? cache key == some entry)).toList := by
  unfold markLog
  cases w.registry.get? cache key with
  | none => rfl
  | some found =>
    change Log.reasons [(found, .mark)] entry = _
    rw [Log.reasons_singleton]
    exact Operation.reason?_on rfl found entry

theorem reasons_giveUpLog (name : String) :
    (w.giveUpLog name).reasons entry = (Reason.dropped.when (w.isNamed entry name)).toList := by
  unfold giveUpLog isNamed
  cases w.claims.get? name with
  | none => rfl
  | some claim =>
    change Log.reasons [(claim.entry, .release)] entry = _
    rw [Log.reasons_singleton]
    exact Operation.reason?_on rfl claim.entry entry

theorem reasons_claimLog (asked : EntryId) (name : String) :
    (w.claimLog asked name).reasons entry =
      (Reason.dropped.when ((w.claimEntry asked name).1 && w.isNamed entry name)).toList := by
  have claimed : (if asked = entry then (Operation.reason? (α := List Channel) .claim).toList else []) = [] :=
    ite_self _
  rw [claimLog, Log.reasons_cons, claimed, claimEntry_fst]
  cases (w.registry.slot asked).canClaim with
  | true => exact reasons_giveUpLog name
  | false => rfl

theorem reasons_callLog (c : Call) (inRuntime : Bool) (r : Registry (List Channel)) (n : Nat) :
    (c.log inRuntime r n).reasons entry = [] := by
  refine Log.reasons_eq_nil fun operation there => ?_
  rw [(eq_claim_of_mem_log there).2]
  rfl

theorem reasons_fetchLog (inRuntime : Bool) (asked : EntryId) : (fetchLog inRuntime asked).reasons entry = [] := by
  refine Log.reasons_eq_nil fun operation there => ?_
  rw [(mem_fetchLog.mp there).2.2]
  rfl

theorem Intact.reasons_restart (intact : w.Intact) :
    Log.reasons (w.flights.map fun f => (f.claim.entry, .release) : Log (List Channel)) entry =
      (Reason.dropped.when (w.flights.any (·.claim.entry == entry))).toList := by
  have each (flights : List Flight) :
      Log.reasons (flights.map fun f => (f.claim.entry, .release) : Log (List Channel)) entry =
        (flights.filter (·.claim.entry == entry)).map fun _ => .dropped := by
    induction flights with
    | nil => rfl
    | cons f flights ih =>
      rw [List.map_cons, Log.reasons_cons, ih]
      by_cases same : f.claim.entry = entry <;> simp [same, Operation.reason?]
  have few : (w.flights.filter (·.claim.entry == entry)).length ≤ 1 := by
    have most := intact.length_claimsOn_le entry
    have parts : (w.claimsOn entry).length = (w.flights.filter (·.claim.entry == entry)).length +
        (w.claims.things.filter (·.entry == entry)).length := by
      rw [claimsOn, custody, List.filter_append, List.length_append, List.filter_map, List.length_map]
      rfl
    omega
  rw [each]
  cases filtered : w.flights.filter (·.claim.entry == entry) with
  | nil =>
    have none : w.flights.any (·.claim.entry == entry) = false := by
      rw [List.any_eq_false]
      exact List.filter_eq_nil_iff.mp filtered
    rw [none]
    rfl
  | cons f others =>
    have there : f ∈ w.flights.filter (·.claim.entry == entry) := filtered ▸ List.mem_cons_self
    obtain ⟨flies, on⟩ := List.mem_filter.mp there
    rw [filtered, List.length_cons] at few
    have alone : others = [] := List.length_eq_zero_iff.mp (by omega)
    rw [alone, List.any_eq_true.mpr ⟨f, flies, on⟩]
    rfl

theorem reasons_feedLog {number : Nat} {log : Feed → Log (List Channel)} {reason : Reason} {condition : Feed → Bool}
    (each : ∀ feed, (log feed).reasons entry = (reason.when (condition feed)).toList) :
    (w.feedLog number log).reasons entry = (reason.when ((w.feeds[number]?).any condition)).toList := by
  unfold feedLog
  cases w.feeds[number]? with
  | none => rfl
  | some feed => exact each feed

theorem Intact.reasons_log (intact : w.Intact) (turn : Turn) :
    (w.log turn).reasons entry = (w.reason? entry turn).toList := by
  have quiet {number : Nat} {log : Feed → Log (List Channel)} (each : ∀ feed, (log feed).reasons entry = []) :
      (w.feedLog number log).reasons entry = [] := by
    unfold feedLog
    cases w.feeds[number]? with
    | none => rfl
    | some feed => exact each feed
  cases turn with
  | poll inRuntime place =>
    simp only [log]
    split
    · exact reasons_callLog _ _ _ _
    · rfl
  | fly place =>
    simp only [log]
    split
    · next f flies =>
      cases (f.advance w.isHolding w.network).1.fetched? with
      | none => rfl
      | some fetched =>
        change Log.reasons [(f.claim.entry, .settle _ (ChannelState.ofFetch fetched))] entry = []
        have known : (ChannelState.ofFetch fetched).isPending = false := by cases fetched <;> rfl
        rw [Log.reasons_singleton, Operation.reason?, known]
        exact ite_self _
    · rfl
  | command inRuntime command =>
    simp only [log]
    cases command with
    | restart => exact intact.reasons_restart
    | channels number => exact quiet fun feed => reasons_fetchLog inRuntime _
    | subscribe number name => exact quiet fun feed => reasons_fetchLog inRuntime _
    | load number name => exact quiet fun feed => reasons_callLog _ _ _ _
    | refetch number name =>
      refine reasons_feedLog fun feed => ?_
      dsimp only
      rw [Log.reasons_cons, reasons_callLog, List.append_nil]
      exact Operation.reason?_on rfl (w.entry feed).1 entry
    | invalidate number => exact reasons_feedLog fun feed => reasons_markLog _ _
    | notify number trigger =>
      refine reasons_feedLog fun feed => ?_
      cases w.refreshed? feed trigger with
      | none => rfl
      | some found =>
        dsimp only
        rw [Log.reasons_cons, reasons_fetchLog, List.append_nil]
        exact Operation.reason?_on rfl found entry
    | cacheInvalidate cache key => exact reasons_markLog cache key
    | claim cache name =>
      simp only [commandLog, reason?, claim, Registry.entry_eq_getOrAdd]
      exact reasons_claimLog (w := { w with registry := _ }) _ name
    | settle name state =>
      simp only [commandLog, reason?, isNamed]
      cases w.claims.get? name with
      | none =>
        rw [Option.any_none, Bool.and_false]
        rfl
      | some claim =>
        change Log.reasons [(claim.entry, .settle _ state)] entry = _
        rw [Log.reasons_singleton, Operation.reason?]
        by_cases same : claim.entry = entry <;> cases state.isPending <;> simp [same, Reason.when]
    | dropClaim name => exact reasons_giveUpLog name
    | mark name =>
      simp only [commandLog, keptLog, reason?]
      cases w.entries.get? name with
      | none => rfl
      | some kept =>
        dsimp only
        rw [Log.reasons_singleton]
        exact Operation.reason?_on rfl kept entry
    | claimKept kept name =>
      simp only [commandLog, keptLog, reason?]
      cases w.entries.get? kept with
      | none => rfl
      | some asked => exact reasons_claimLog asked name
    | _ => rfl

/-! ## The fetches in a log -/

/-- While a claim on the slot is in hands under a name, none can be taken under it. -/
theorem Intact.unasked_of_named (intact : w.Intact) {asked : EntryId} (granted : (w.claimEntry asked name).1 = true)
    (named : w.isNamed entry name = true) : (entry, .claim) ∉ w.claimLog asked name := by
  intro there
  rcases mem_claimLog.mp there with ⟨rfl, -⟩ | ⟨-, given⟩
  · obtain ⟨claim, under, on⟩ := isNamed_iff.mp named
    have held : claim ∈ w.claimsOn entry :=
      mem_claimsOn.mpr ⟨List.mem_append_right _ (Names.mem_things_of_get? under), on⟩
    have idle := Slot.isFetching_of_canClaim ((claimEntry_fst w entry name).symm.trans granted)
    rw [(intact.claimsOn_eq_nil entry).mpr idle] at held
    cases held
  · cases (mem_giveUpLog.mp given).2

/-- No fetch begins in a turn in which a claim on its slot is dropped. -/
theorem Intact.unasked_of_released (intact : w.Intact) {turn : Turn} (released : (entry, .release) ∈ w.log turn) :
    (entry, .claim) ∉ w.log turn := by
  have dropped : Reason.dropped ∈ (w.log turn).reasons entry :=
    List.mem_filterMap.mpr ⟨.release, Log.mem_on.mpr released, rfl⟩
  rw [intact.reasons_log, Option.mem_toList] at dropped
  intro asked
  cases turn with
  | poll inRuntime place => cases dropped
  | fly place => cases dropped
  | command inRuntime command =>
    cases command with
    | restart =>
      obtain ⟨f, -, same⟩ := List.mem_map.mp asked
      cases same
    | dropClaim name => cases (mem_giveUpLog.mp asked).2
    | claim cache name =>
      simp only [reason?, Reason.when, Option.ite_none_right_eq_some, Bool.and_eq_true] at dropped
      obtain ⟨⟨granted, named⟩, -⟩ := dropped
      rw [World.claim, Registry.entry_eq_getOrAdd] at granted
      exact (intact.keeps (w.keeps_getOrAdd cache channelsKey)).unasked_of_named granted named asked
    | claimKept kept name =>
      simp only [reason?, Reason.when, Option.ite_none_right_eq_some, Bool.and_eq_true,
        Option.any_eq_true] at dropped
      obtain ⟨⟨⟨found, known, granted⟩, named⟩, -⟩ := dropped
      simp only [log, commandLog, keptLog, known] at asked
      exact intact.unasked_of_named granted named asked
    | _ => simp [reason?, Reason.when] at dropped

theorem Intact.going_or_unasked (intact : w.Intact) (turn : Turn) :
    (∀ operation ∈ (w.log turn).on entry, operation.ends = false) ∨ .claim ∉ (w.log turn).on entry := by
  by_cases asked : .claim ∈ (w.log turn).on entry
  · refine .inl fun operation there => ?_
    cases operation with
    | settle generation state =>
      rw [(settlement_of_mem_log (Log.mem_on.mp there)).2, Log.on_singleton, if_pos rfl] at asked
      cases List.mem_singleton.mp asked
    | release => exact absurd (Log.mem_on.mp asked) (intact.unasked_of_released (Log.mem_on.mp there))
    | _ => rfl
  · exact .inr asked

/-- A fetch begins in a turn that finds the slot idle and leaves it being fetched, and in no other. -/
theorem Intact.grants_log (intact : w.Intact) (turn : Turn) :
    grants (w.registry.cell entry) ((w.log turn).on entry) = if w.begins entry turn then 1 else 0 := by
  have cell := intact.follows (keeps_turn intact turn) entry
  rw [begins, Registry.slot, Registry.slot, cell]
  rcases intact.going_or_unasked turn with going | unasked
  · exact (grants_of_going _ going).2
  · have still := isFetching_replay (w.registry.cell entry) unasked
    rw [grants_of_unasked _ unasked]
    cases idle : (w.registry.cell entry).slot.isFetching with
    | true => rfl
    | false =>
      rw [still idle]
      rfl

/-! ## Whole runs -/

theorem Intact.reasons_logs (intact : w.Intact) (turns : List Turn) :
    (w.logs turns).reasons entry = w.reasons entry turns := by
  induction turns generalizing w with
  | nil => rfl
  | cons turn turns ih =>
    rw [logs, Log.reasons_append, intact.reasons_log, ih (intact.turn turn)]
    rfl

theorem Intact.grants_logs (intact : w.Intact) (turns : List Turn) :
    grants (w.registry.cell entry) ((w.logs turns).on entry) = w.fetches entry turns := by
  induction turns generalizing w with
  | nil => rfl
  | cons turn turns ih =>
    rw [logs, Log.on_append, grants_append, intact.grants_log, ← intact.follows (keeps_turn intact turn) entry,
      ih (intact.turn turn)]
    rfl

/-- The accesses that turns are made of come after others that lead to the world, and as much is counted of the slot in
them as in the turns. -/
structure MadeOf (w : World) (turns : List Turn) (entry : EntryId) (later : List (Access (List Channel))) : Prop where
  between : ∃ caches earlier s t, (Shared.start caches).run earlier = some s ∧ w.custody.Shows s ∧
    s.run later = some t ∧ (w.turns turns).custody.Shows t
  log : Access.log later = w.logs turns
  fetches : Cache.fetches entry later = w.fetches entry turns
  marked : marks entry later = (w.reasons entry turns).count .marked
  dropped : abandonments entry later = (w.reasons entry turns).count .dropped
  blanked : blankings entry later = (w.reasons entry turns).count .blanked

theorem Intact.madeOf (intact : w.Intact) (turns : List Turn) (entry : EntryId) :
    ∃ later, w.MadeOf turns entry later := by
  obtain ⟨caches, earlier, s, ran, shows⟩ := intact.shown
  have sound := (Shared.sound_start caches).run ran
  obtain ⟨later, t, on, after, logged⟩ := (keeps_turns intact turns).leadsTo s sound shows
  obtain ⟨marked, dropped, blanked⟩ := count_reasons entry later
  rw [logged, intact.reasons_logs] at marked dropped blanked
  refine ⟨later, ⟨caches, earlier, s, t, ran, shows, on, after⟩, logged, ?_, marked, dropped, blanked⟩
  rw [fetches_eq_grants sound on, logged, shows.registry]
  exact intact.grants_logs turns

theorem MadeOf.fetches_le {turns : List Turn} {later : List (Access (List Channel))}
    (made : w.MadeOf turns entry later) : w.fetches entry turns ≤ 1 + (w.reasons entry turns).length := by
  obtain ⟨caches, earlier, s, t, ran, -, on, -⟩ := made.between
  have few := fetches_le_reasons ran on entry
  rw [made.fetches, made.marked, made.dropped, made.blanked] at few
  rw [length_eq_counts]
  omega

end

/-- In any part of a run a slot is fetched at most once more than there are reasons to: it is marked by whoever
invalidates the channels or fetches them anew, by a notification that refreshes them or by hand, a claim on it is
dropped, or it is settled with nothing by hand. To read, load or watch the channels is no reason, and without one the
slot is fetched at most once. The turns are made of accesses in which as much is counted, and the marks are those that
the generation of the slot counts. The bound also holds if the accesses of many threads are mixed, and no call gives a
reason with any of its own. -/
theorem fetches_are_few :
    (∀ (network : Http.Network) (caches : Nat) (feeds : List Feed) (past segment : List Turn) (entry : EntryId),
      let w := (start network caches feeds).turns past
      w.fetches entry segment ≤ 1 + (w.reasons entry segment).length ∧
        (w.reasons entry segment = [] → w.fetches entry segment ≤ 1) ∧
        ((w.turns segment).registry.slot entry).generation =
          (w.registry.slot entry).generation + (w.reasons entry segment).count .marked ∧
        ∃ later, w.MadeOf segment entry later) ∧
    (∀ {α : Type} {caches : Nat} {past segment : List (Access α)} {s t : Shared α} (entry : EntryId),
      (Shared.start caches).run past = some s → s.run segment = some t →
        Cache.fetches entry segment ≤
          1 + marks entry segment + abandonments entry segment + blankings entry segment) ∧
    ∀ (c : Call) (s : Shared (List Channel)) (entry : EntryId), (c.nextAccess s).reason? entry = none := by
  refine ⟨?_, fun entry ran on => fetches_le_reasons ran on entry, fun c s entry => ?_⟩
  · intro network caches feeds past segment entry w
    have intact : w.Intact := (intact_start network caches feeds).turns past
    obtain ⟨later, made⟩ := intact.madeOf segment entry
    have few := made.fetches_le
    refine ⟨few, fun none => ?_, ?_, later, made⟩
    · rw [none] at few
      exact few
    · have cell := intact.follows (keeps_turns intact segment) entry
      rw [Registry.slot, Registry.slot, cell, generation_replay]
      exact congrArg (fun reasons => _ + List.count Reason.marked reasons) (intact.reasons_logs segment)
  · unfold Call.nextAccess Call.ask
    split
    · split <;> rfl
    · split <;> rfl
    · rfl
    · rfl

namespace MarkedOnce

def world : World := start (.answering []) 1 [.onLocalhost .default]

/-- The channels are asked for in every way. -/
def asking : List Turn :=
  [.command true (.channels 0), .command true (.load 0 "load"), .command true (.subscribe 0 "watch"),
    .command true (.channels 0), .poll true 0]

/-- The channels are marked while a claim is on them, and asked for when it has settled them. -/
def renewing : List Turn :=
  .command true (.claim 0 "claim") :: .command true (.invalidate 0) ::
    .command true (.settle "claim" (.ready [])) :: asking

end MarkedOnce

open MarkedOnce in
/-- The bound is reached by channels that are marked while a claim is on them: they are fetched once more, however often
they are asked for. Without a mark they are fetched once. So it is with the accesses of threads. -/
theorem fetched_twice_if_marked :
    (world.fetches 0 renewing ≤ 1 + (world.reasons 0 renewing).length ∧ world.fetches 0 renewing = 2 ∧
      world.reasons 0 renewing = [.marked]) ∧
    (world.fetches 0 asking ≤ 1 ∧ world.fetches 0 asking = 1) ∧
    ∃ s t, (Shared.start 1).run [] = some s ∧ s.run (markedInFlight 5).tail = some t ∧
      Cache.fetches 0 (markedInFlight 5).tail ≤ 1 + marks 0 (markedInFlight 5).tail +
        abandonments 0 (markedInFlight 5).tail + blankings 0 (markedInFlight 5).tail ∧
      Cache.fetches 0 (markedInFlight 5).tail = 2 := by
  have turns := fetches_are_few.1 (.answering []) 1 [.onLocalhost .default] []
  have begun : (Shared.start 1 : Shared Nat).run [] = some _ := rfl
  have ran : (Shared.start 1).run (markedInFlight 5).tail = some _ := rfl
  refine ⟨⟨(turns renewing 0).1, by decide, by decide⟩, ⟨(turns asking 0).2.1 (by decide), by decide⟩, _, _, begun, ran,
    ?_, by decide⟩
  exact fetches_are_few.2.1 0 begun ran

end World

end ChannelFeed
