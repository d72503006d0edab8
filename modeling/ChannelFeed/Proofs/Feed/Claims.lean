import ChannelFeed.Proofs.Feed.Logs
import ChannelFeed.Proofs.Sharing.Custody
import ChannelFeed.Proofs.Sharing.Keys
import Mathlib.Data.List.Perm.Basic

/-!
# The claims of a world

In a world claims are held by the fetches on their way and under the names they were taken by. Every turn is made of
accesses to what is shared, which carry out the operations of its log and no others. So a slot is marked as being
fetched exactly while one of the claims is on it. Main statement: `marked_iff_claimed`.
-/
namespace ChannelFeed

open Cache

namespace World

/-- All slots of a world and all claims on them. -/
def custody (w : World) : Custody (List Channel) := ⟨w.registry, w.flights.map Flight.claim ++ w.claims.things⟩

/-- The claims on one slot, whoever holds them. -/
def claimsOn (w : World) (entry : EntryId) : List Claim := w.custody.claims.filter (·.entry == entry)

/-- What a part of a turn keeps: it is made of accesses that carry out its operations, slots and names stay in order, and
whoever comes into line or into hands is about a slot that was made. -/
structure Keeps (w : World) (log : Log (List Channel)) (w' : World) : Prop where
  leadsTo : w.custody.LeadsTo log w'.custody
  grows : w.registry.cells.length ≤ w'.registry.cells.length
  closed : w.registry.Closed → w'.registry.Closed
  distinct : w.claims.Distinct → w'.claims.Distinct
  calls : ∀ c ∈ w'.calls, c ∈ w.calls ∨ c.2.entry < w'.registry.cells.length
  kept : ∀ entry, w'.isKept entry = true → w.isKept entry = true ∨ entry < w'.registry.cells.length

namespace Keeps

variable {w w' w'' : World} {log rest : Log (List Channel)}

theorem refl (w : World) : w.Keeps [] w := ⟨.refl _, Nat.le_refl _, id, id, fun _ => .inl, fun _ => .inl⟩

theorem trans (first : w.Keeps log w') (second : w'.Keeps rest w'') : w.Keeps (log ++ rest) w'' where
  leadsTo := first.leadsTo.trans second.leadsTo
  grows := Nat.le_trans first.grows second.grows
  closed := second.closed ∘ first.closed
  distinct := second.distinct ∘ first.distinct
  calls := by
    intro c there
    rcases second.calls c there with between | made
    · exact (first.calls c between).imp_right (Nat.lt_of_lt_of_le · second.grows)
    · exact .inr made
  kept := by
    intro entry still
    rcases second.kept entry still with between | made
    · exact (first.kept entry between).imp_right (Nat.lt_of_lt_of_le · second.grows)
    · exact .inr made

theorem of_registry {registry : Registry (List Channel)}
    (leads : ∀ claims, Custody.LeadsTo ⟨w.registry, claims⟩ log ⟨registry, claims⟩)
    (grows : w.registry.cells.length ≤ registry.cells.length) (closed : w.registry.Closed → registry.Closed) :
    w.Keeps log { w with registry } :=
  ⟨leads _, grows, closed, id, fun _ => .inl, fun _ => .inl⟩

theorem of_eq (custody : w'.custody = w.custody) (claims : w'.claims = w.claims)
    (calls : ∀ c ∈ w'.calls, c ∈ w.calls ∨ c.2.entry < w.registry.cells.length)
    (kept : ∀ entry, w'.isKept entry = true → w.isKept entry = true ∨ entry < w.registry.cells.length) :
    w.Keeps [] w' := by
  have registry : w'.registry = w.registry := congrArg Custody.registry custody
  refine ⟨?_, Nat.le_of_eq (by rw [registry]), fun closed => registry ▸ closed, fun distinct => claims ▸ distinct,
    registry ▸ calls, registry ▸ kept⟩
  rw [custody]
  exact .refl _

end Keeps

section
variable (w : World)

/-! ## Slots and keys -/

theorem keeps_getOrAdd (cache : Nat) (key : String) :
    w.Keeps [] { w with registry := (w.registry.getOrAdd cache key).2 } :=
  .of_registry (fun _ => Custody.leadsTo_getOrAdd cache key) (w.registry.length_getOrAdd cache key)
    fun closed => closed.getOrAdd cache key

theorem entry_eq (feed : Feed) :
    w.entry feed = ((w.registry.getOrAdd feed.cache channelsKey).1,
      { w with registry := (w.registry.getOrAdd feed.cache channelsKey).2 }) := by
  rw [World.entry, Registry.entry_eq_getOrAdd]

theorem keeps_entry (feed : Feed) : w.Keeps [] (w.entry feed).2 := by
  rw [entry_eq]
  exact w.keeps_getOrAdd feed.cache channelsKey

theorem keeps_remove (cache : Nat) (key : String) :
    w.Keeps [] { w with registry := (w.registry.remove cache key).2 } :=
  .of_registry (fun _ => Custody.leadsTo_remove cache key) (Nat.le_refl _) fun closed => closed.remove cache key

theorem keeps_clear (cache : Nat) : w.Keeps [] { w with registry := w.registry.clear cache } :=
  .of_registry (fun _ => Custody.leadsTo_clear cache) (Nat.le_refl _) fun closed => closed.clear cache

variable {w} {entry : EntryId}

theorem keeps_markStale (made : entry < w.registry.cells.length) :
    w.Keeps [(entry, .mark)] { w with registry := (w.registry.markStale entry).2 } :=
  .of_registry (fun _ => Custody.leadsTo_markStale made) (Nat.le_of_eq (Registry.length_update ..).symm)
    fun closed => closed.update entry Slot.markedStale

theorem keeps_invalidate (closed : w.registry.Closed) (cache : Nat) (key : String) :
    w.Keeps (w.markLog cache key) { w with registry := (w.registry.invalidate cache key).2 } := by
  unfold Registry.invalidate markLog
  cases found : w.registry.get? cache key with
  | none => exact .refl w
  | some entry => exact keeps_markStale (closed.get?_lt found)

/-! ## Fetches -/

theorem keeps_refuse (refused : w.registry.claim? entry = none) : w.Keeps [(entry, .claim)] w :=
  ⟨Custody.leadsTo_refuse refused, Nat.le_refl _, id, id, fun _ => .inl, fun _ => .inl⟩

theorem keeps_launch {claim : Claim} {registry : Registry (List Channel)} (feed : Feed)
    (made : entry < w.registry.cells.length) (granted : w.registry.claim? entry = some (claim, registry)) :
    w.Keeps [(entry, .claim)] (launch { w with registry } feed (some claim)) := by
  obtain ⟨-, -, rfl⟩ := Registry.claim?_eq_some.mp granted
  refine ⟨?_, Nat.le_of_eq (Registry.length_update ..).symm, fun closed => closed.update entry Slot.claimed, id,
    fun _ => .inl, fun _ => .inl⟩
  refine (Custody.leadsTo_claim made granted).regrouped ?_
  simp only [launch, List.map_append, List.append_assoc]
  exact List.Perm.append_left _ List.perm_append_comm

theorem keeps_startFetch (inRuntime : Bool) (feed : Feed) (made : entry < w.registry.cells.length) :
    w.Keeps (fetchLog inRuntime entry) (w.startFetch inRuntime feed entry).2 := by
  unfold startFetch fetchLog
  cases inRuntime with
  | false => exact .refl w
  | true =>
    cases asked : w.registry.claim? entry with
    | none =>
      simp only [Call.claim?, if_true, asked]
      exact keeps_refuse asked
    | some granted =>
      simp only [Call.claim?, if_true, asked]
      exact keeps_launch feed made asked

/-- A fetch that is run goes on to hold its claim or settles its slot. -/
theorem keeps_fly (place : Nat) : w.Keeps (w.log (.fly place)) (w.turn (.fly place)) := by
  simp only [turn, log]
  cases there : w.flights[place]? with
  | none => exact .refl w
  | some f =>
    have apart : w.flights.Perm (f :: w.flights.eraseIdx place) := by
      obtain ⟨inside, rfl⟩ := List.getElem?_eq_some_iff.mp there
      exact (List.getElem_cons_eraseIdx_perm inside).symm
    have out : w.custody.LeadsTo []
        ⟨w.registry, f.claim :: ((w.flights.eraseIdx place).map Flight.claim ++ w.claims.things)⟩ :=
      .regroup ((apart.map Flight.claim).append_right _)
    dsimp only
    obtain ⟨fetched, known, same⟩ | ⟨unknown, same⟩ := runFlight_cases { w with flights := w.flights.eraseIdx place } f
    · rw [same, known]
      refine ⟨out.trans (Custody.leadsTo_settle f.claim _), Nat.le_of_eq (Registry.length_update ..).symm, ?_, id,
        fun _ => .inl, fun _ => .inl⟩
      exact fun closed => closed.update _ _
    · rw [same, unknown]
      refine ⟨out.regrouped ?_, Nat.le_refl _, id, id, fun _ => .inl, fun _ => .inl⟩
      rw [List.map_append, List.append_assoc]
      exact List.perm_middle.symm

theorem release_eq (w : World) :
    ∃ flights, w.release.2 = { w with flights } ∧ flights.map Flight.claim = w.flights.map Flight.claim := by
  unfold release
  split
  · exact ⟨w.flights, rfl, rfl⟩
  · next ticket oldest =>
    refine ⟨_, rfl, ?_⟩
    rw [List.map_map]
    refine List.map_congr_left ?_
    intro f there
    simp only [Function.comp]
    split <;> rfl

theorem keeps_restart (w : World) : w.Keeps (w.flights.map fun f => (f.claim.entry, .release)) w.restart := by
  have given : w.flights.foldl (fun r f => r.release f.claim) w.registry =
      (w.flights.map Flight.claim).foldl Registry.release w.registry := List.foldl_map.symm
  have each : (w.flights.map fun f => (f.claim.entry, .release) : Log (List Channel)) =
      (w.flights.map Flight.claim).map fun claim => (claim.entry, .release) := by
    rw [List.map_map]
    rfl
  have length (ended : List Claim) (r : Registry (List Channel)) :
      (ended.foldl Registry.release r).cells.length = r.cells.length := by
    induction ended generalizing r with
    | nil => rfl
    | cons claim ended ih => rw [List.foldl_cons, ih, Registry.release, Registry.length_update]
  have closed (ended : List Claim) (r : Registry (List Channel)) (was : r.Closed) :
      (ended.foldl Registry.release r).Closed := by
    induction ended generalizing r with
    | nil => exact was
    | cons claim ended ih => exact ih _ (was.update claim.entry Slot.released)
  unfold restart
  rw [given, each]
  exact ⟨Custody.leadsTo_releases _, Nat.le_of_eq (length ..).symm, closed _ _, id, fun _ => .inl, fun _ => .inl⟩

theorem keeps_notify (closed : w.registry.Closed) (inRuntime : Bool) (feed : Feed) (trigger : Trigger) :
    w.Keeps
      (match w.refreshed? feed trigger with
        | some entry => (entry, .mark) :: fetchLog inRuntime entry
        | none => [])
      (w.notify inRuntime feed trigger).2 := by
  rw [notify_eq]
  cases refreshed : w.refreshed? feed trigger with
  | none => exact .refl w
  | some entry =>
    have made := closed.get?_lt (refreshed?_eq_some refreshed).1
    have marked := keeps_markStale made
    exact marked.trans (keeps_startFetch inRuntime feed (Nat.lt_of_lt_of_le made marked.grows))

/-! ## Claims taken by hand -/

theorem leadsTo_named {name : String} {claim : Claim} (distinct : w.claims.Distinct)
    (found : w.claims.get? name = some claim) :
    w.custody.LeadsTo []
      ⟨w.registry, claim :: (w.flights.map Flight.claim ++ (w.claims.erase name).things)⟩ :=
  .regroup (((Names.things_perm_of_get? distinct found).append_left _).trans List.perm_middle)

theorem keeps_giveUp (distinct : w.claims.Distinct) (name : String) :
    w.Keeps (w.giveUpLog name) (w.giveUp name) := by
  unfold giveUp giveUpLog
  cases found : w.claims.get? name with
  | none => exact .refl w
  | some claim =>
    refine ⟨?_, Nat.le_of_eq (Registry.length_update ..).symm, ?_, fun distinct => distinct.erase name, fun _ => .inl,
      fun _ => .inl⟩
    · exact (leadsTo_named distinct found).trans (Custody.leadsTo_release claim)
    · exact fun closed => closed.update claim.entry Slot.released

theorem keeps_settle (distinct : w.claims.Distinct) {name : String} {claim : Claim}
    (found : w.claims.get? name = some claim) (state : ChannelState) :
    w.Keeps [(claim.entry, .settle claim.generation state)]
      { w with registry := w.registry.settle claim state, claims := w.claims.erase name } := by
  refine ⟨?_, Nat.le_of_eq (Registry.length_update ..).symm, ?_, fun distinct => distinct.erase name, fun _ => .inl,
    fun _ => .inl⟩
  · exact (leadsTo_named distinct found).trans (Custody.leadsTo_settle claim state)
  · exact fun closed => closed.update _ _

/-- A claim is put under a name, and the one that was there before is given up. -/
theorem keeps_put {claim : Claim} {r : Registry (List Channel)} (distinct : w.claims.Distinct)
    (name : String) (made : entry < w.registry.cells.length)
    (granted : w.registry.claim? entry = some (claim, r)) :
    w.Keeps ((entry, .claim) :: w.giveUpLog name) { giveUp { w with registry := r } name with
      claims := (giveUp { w with registry := r } name).claims.put name claim } := by
  obtain ⟨-, -, updated⟩ := Registry.claim?_eq_some.mp granted
  have taken : w.custody.LeadsTo [(entry, .claim)] ⟨r, w.custody.claims ++ [claim]⟩ :=
    Custody.leadsTo_claim made granted
  have length : w.registry.cells.length ≤ r.cells.length := by
    rw [updated]
    exact Nat.le_of_eq (Registry.length_update ..).symm
  have closed (was : w.registry.Closed) : r.Closed := by
    rw [updated]
    exact was.update entry Slot.claimed
  unfold giveUp giveUpLog
  dsimp only
  cases found : w.claims.get? name with
  | none =>
    refine ⟨taken.regrouped ?_, length, closed, fun distinct => distinct.put name claim, fun _ => .inl, fun _ => .inl⟩
    simp [custody, Names.put, Names.things, Names.erase_eq_self_of_get?_eq_none found]
  | some old =>
    have before := Names.things_perm_of_get? distinct found
    have again : (w.claims.erase name).erase name = w.claims.erase name := by
      refine Names.erase_eq_self_of_get?_eq_none ?_
      rw [Names.get?_erase, if_pos rfl]
    refine ⟨?_, Nat.le_trans length (Nat.le_of_eq (Registry.length_update ..).symm), ?_, ?_, fun _ => .inl,
      fun _ => .inl⟩
    · refine (taken.regrouped ?_).trans (Custody.leadsTo_release old)
      simp only [Names.put, again, custody, Names.things, List.map_append, List.map_singleton, ← List.append_assoc]
      refine .trans (((before.append_left _).trans List.perm_middle).append_right [claim]) ?_
      exact .refl _
    · exact fun was => (closed was).update old.entry Slot.released
    · exact fun distinct => (distinct.erase name).put name claim

/-- A claim is taken by hand, and the one that was under its name is given up. -/
theorem keeps_claimEntry (distinct : w.claims.Distinct) (made : entry < w.registry.cells.length) (name : String) :
    w.Keeps (w.claimLog entry name) (w.claimEntry entry name).2 := by
  unfold claimEntry claimLog
  cases asked : w.registry.claim? entry with
  | none =>
    rw [if_neg (Bool.eq_false_iff.mp (Registry.claim?_eq_none.mp asked))]
    exact keeps_refuse asked
  | some granted =>
    rw [if_pos (Registry.claim?_eq_some.mp asked).1]
    exact keeps_put distinct name made asked

/-! ## Calls -/

theorem keeps_access {c : Call} (made : c.entry < w.registry.cells.length) (inRuntime : Bool) :
    w.Keeps (c.operations inRuntime) (launch { w with registry := (c.access inRuntime w.registry).2.2 } c.feed
      (c.access inRuntime w.registry).2.1) := by
  have asked := keeps_startFetch inRuntime c.feed made
  unfold startFetch at asked
  unfold Call.access Call.operations
  cases c.phase with
  | starting =>
    cases granted : Call.claim? inRuntime w.registry c.entry <;> (rw [granted] at asked; exact asked)
  | retrying found =>
    cases granted : Call.claim? inRuntime w.registry c.entry <;> (rw [granted] at asked; exact asked)
  | waiting wait =>
    dsimp only
    split
    · exact .refl w
    · split <;> exact .refl w
  | checking found =>
    dsimp only
    split <;> exact .refl w

theorem registry_launch (w : World) (feed : Feed) (claim : Option Claim) :
    (w.launch feed claim).registry = w.registry := by
  cases claim <;> rfl

theorem keeps_advance {c : Call} (made : c.entry < w.registry.cells.length) (inRuntime : Bool) (n : Nat) :
    w.Keeps (c.log inRuntime w.registry n) (w.advance inRuntime c n).2 ∧
      ∀ rest, (w.advance inRuntime c n).1 = .pending rest → rest.entry = c.entry := by
  induction n generalizing w c with
  | zero =>
    refine ⟨.refl w, ?_⟩
    rintro rest waits
    cases waits
    rfl
  | succ n ih =>
    have kept := keeps_access made inRuntime
    simp only [Call.log, advance]
    cases progress : (c.access inRuntime w.registry).1 with
    | going next =>
      have same : next.entry = c.entry := (Call.same_access (congrArg Call.Progress.polled progress)).2.1
      obtain ⟨later, waits⟩ := ih (c := next) (same ▸ Nat.lt_of_lt_of_le made kept.grows)
      rw [registry_launch] at later
      exact ⟨kept.trans later, fun rest pending => (waits rest pending).trans same⟩
    | blocked next =>
      rw [List.append_nil]
      refine ⟨kept, ?_⟩
      rintro rest waits
      cases waits
      exact (Call.same_access (congrArg Call.Progress.polled progress)).2.1
    | settled state =>
      rw [List.append_nil]
      refine ⟨kept, ?_⟩
      rintro rest waits
      cases waits

/-- A call is polled and goes to the end of the line if it waits. -/
theorem keeps_poll {c : Call} (made : c.entry < w.registry.cells.length) (inRuntime : Bool) (name : String)
    {others : List (String × Call)} (fewer : others ⊆ w.calls) :
    w.Keeps (c.log inRuntime w.registry maxAccesses)
      ((w.pollCall inRuntime c).2.withCalls (others ++ putBack name (w.pollCall inRuntime c).1)) := by
  obtain ⟨kept, waits⟩ := keeps_advance made inRuntime maxAccesses
  have polled : (w.pollCall inRuntime c).2 = (w.advance inRuntime c maxAccesses).2 ∧
      ∀ rest, (w.pollCall inRuntime c).1 = .pending rest → rest.entry = c.entry := by
    unfold pollCall
    generalize w.advance inRuntime c maxAccesses = result at waits ⊢
    obtain ⟨progress, after⟩ := result
    cases progress with
    | pending c' => exact ⟨rfl, fun rest same => waits rest (congrArg _ (Polled.pending.inj same))⟩
    | done state => exact ⟨rfl, fun rest same => nomatch same⟩
  rw [polled.1]
  refine ⟨kept.leadsTo, kept.grows, kept.closed, kept.distinct, ?_, kept.kept⟩
  intro pair there
  rcases List.mem_append.mp there with old | new
  · exact .inl (fewer old)
  · refine .inr ?_
    cases progress : (w.pollCall inRuntime c).1 with
    | pending rest =>
      rw [progress] at new
      rw [List.mem_singleton.mp new, polled.2 rest progress]
      exact Nat.lt_of_lt_of_le made kept.grows
    | done result =>
      rw [progress] at new
      cases new

theorem keeps_begin {c : Call} (made : c.entry < w.registry.cells.length) (inRuntime : Bool) (name : String) :
    w.Keeps (c.log inRuntime w.registry maxAccesses) (w.begin inRuntime name c).2 := by
  rw [begin_eq]
  exact keeps_poll made inRuntime name (List.Subset.refl _)

end

/-! ## Slots in hands -/

section
variable {w : World} {entry : EntryId} {name : String}

theorem isKept_iff : w.isKept entry = true ↔
    entry ∈ w.entries.things ∨ ∃ wait ∈ w.waits.things, wait.entry = entry := by
  simp [isKept]

theorem isKept_of_entry (found : w.entries.get? name = some entry) : w.isKept entry = true :=
  isKept_iff.mpr (.inl (Names.mem_things_of_get? found))

theorem isKept_of_wait {wait : Wait} (found : w.waits.get? name = some wait) : w.isKept wait.entry = true :=
  isKept_iff.mpr (.inr ⟨wait, Names.mem_things_of_get? found, rfl⟩)

theorem isKept_put {other : EntryId} (kept : isKept { w with entries := w.entries.put name entry } other = true) :
    w.isKept other = true ∨ other = entry := by
  rcases isKept_iff.mp kept with there | waits
  · exact (Names.mem_things_put there).imp_left fun old => isKept_iff.mpr (.inl old)
  · exact .inl (isKept_iff.mpr (.inr waits))

theorem isKept_of_letGo (kept : isKept { w with entries := w.entries.erase name } entry = true) :
    w.isKept entry = true :=
  isKept_iff.mpr ((isKept_iff.mp kept).imp_left Names.mem_things_of_erase)

theorem isKept_of_dropWait (kept : isKept { w with waits := w.waits.erase name } entry = true) :
    w.isKept entry = true := by
  refine isKept_iff.mpr ((isKept_iff.mp kept).imp_right ?_)
  rintro ⟨wait, there, on⟩
  exact ⟨wait, Names.mem_things_of_erase there, on⟩

theorem pollWait_eq (w : World) (name : String) (wait : Wait) {others : Names Wait}
    (fewer : others.things ⊆ w.waits.things) :
    ∃ waits, (w.pollWait name wait others).2 = { w with waits } ∧
      ∀ other, isKept { w with waits } other = true → w.isKept other = true ∨ other = wait.entry := by
  unfold pollWait
  cases polled : wait.poll w.registry with
  | done slot =>
    refine ⟨others, rfl, fun other kept => .inl ?_⟩
    refine isKept_iff.mpr ((isKept_iff.mp kept).imp_right ?_)
    rintro ⟨wait, there, on⟩
    exact ⟨wait, fewer there, on⟩
  | pending rest =>
    refine ⟨w.waits.put name rest, rfl, fun other kept => ?_⟩
    rcases isKept_iff.mp kept with there | ⟨waiting, there, on⟩
    · exact .inl (isKept_iff.mpr (.inl there))
    · rcases Names.mem_things_put there with old | rfl
      · exact .inl (isKept_iff.mpr (.inr ⟨waiting, old, on⟩))
      · exact .inr (on.symm.trans (Wait.poll_pending polled))

end

/-! ## Whole turns -/

/-- What holds of a world between turns. Slots and claims are as some run of accesses left them. -/
structure Intact (w : World) : Prop where
  shown : ∃ caches past s, (Shared.start caches).run past = some s ∧ w.custody.Shows s
  closed : w.registry.Closed
  distinct : w.claims.Distinct
  calls : ∀ c ∈ w.calls, c.2.entry < w.registry.cells.length
  kept : ∀ entry, w.isKept entry = true → entry < w.registry.cells.length

theorem intact_start (network : Http.Network) (caches : Nat) (feeds : List Feed) :
    (start network caches feeds).Intact where
  shown := by
    refine ⟨caches, [], .start caches, rfl, rfl, .refl _, ?_⟩
    intro h holds
    cases holds
  closed := Registry.closed_empty caches
  distinct := List.nodup_nil
  calls := by
    intro c there
    cases there
  kept := by
    intro entry kept
    cases kept

section
variable {w w' : World} {log : Log (List Channel)} {name : String}

namespace Intact

theorem sound (intact : w.Intact) : ∃ s : Shared (List Channel), s.Sound ∧ w.custody.Shows s := by
  obtain ⟨caches, past, s, ran, shows⟩ := intact.shown
  exact ⟨s, (Shared.sound_start caches).run ran, shows⟩

theorem inside (intact : w.Intact) {claim : Claim} (holds : claim ∈ w.custody.claims) :
    claim.entry < w.registry.cells.length := by
  obtain ⟨s, sound, shows⟩ := intact.sound
  obtain ⟨h, held, rfl⟩ := List.mem_map.mp (shows.claims.mem_iff.mpr holds)
  have within := sound.inside h held
  rw [shows.registry] at within
  exact within

theorem named (intact : w.Intact) {claim : Claim} (found : w.claims.get? name = some claim) :
    claim.entry < w.registry.cells.length :=
  intact.inside (List.mem_append_right _ (Names.mem_things_of_get? found))

theorem keeps (intact : w.Intact) (kept : w.Keeps log w') : w'.Intact where
  shown := by
    obtain ⟨caches, past, s, ran, shows⟩ := intact.shown
    obtain ⟨later, t, on, after, -⟩ := kept.leadsTo s ((Shared.sound_start caches).run ran) shows
    exact ⟨caches, later ++ past, t, Shared.run_append.mpr ⟨s, ran, on⟩, after⟩
  closed := kept.closed intact.closed
  distinct := kept.distinct intact.distinct
  calls := by
    intro c there
    rcases kept.calls c there with old | made
    · exact Nat.lt_of_lt_of_le (intact.calls c old) kept.grows
    · exact made
  kept := by
    intro entry still
    rcases kept.kept entry still with old | made
    · exact Nat.lt_of_lt_of_le (intact.kept entry old) kept.grows
    · exact made

theorem follows (intact : w.Intact) (kept : w.Keeps log w') : w.registry.Follows log w'.registry := by
  obtain ⟨s, sound, shows⟩ := intact.sound
  exact kept.leadsTo.follows sound shows

theorem entry (intact : w.Intact) (feed : Feed) :
    (w.entry feed).2.Intact ∧ (w.entry feed).1 < (w.entry feed).2.registry.cells.length := by
  refine ⟨intact.keeps (w.keeps_entry feed), ?_⟩
  rw [entry_eq]
  exact intact.closed.getOrAdd_lt feed.cache channelsKey

theorem startFetch (intact : w.Intact) {entry : EntryId} (made : entry < w.registry.cells.length) (inRuntime : Bool) (feed : Feed) :
    (w.startFetch inRuntime feed entry).2.Intact := intact.keeps (keeps_startFetch inRuntime feed made)

theorem markStale (intact : w.Intact) {entry : EntryId} (made : entry < w.registry.cells.length) :
    Intact { w with registry := (w.registry.markStale entry).2 } := intact.keeps (keeps_markStale made)

end Intact

theorem keeps_feed {number : Nat} {log : Feed → Log (List Channel)} {f : Feed → Answer × World}
    (each : ∀ feed, w.Keeps (log feed) (f feed).2) :
    w.Keeps (w.feedLog number log) (w.withHandle w.feeds[number]? f).2 := by
  unfold feedLog
  cases w.feeds[number]? with
  | none => exact .refl w
  | some feed => exact each feed

theorem keeps_kept {log : EntryId → Log (List Channel)} {f : EntryId → Answer × World}
    (each : ∀ entry, w.entries.get? name = some entry → w.Keeps (log entry) (f entry).2) :
    w.Keeps (w.keptLog name log) (w.withHandle (w.entries.get? name) f).2 := by
  unfold keptLog
  cases found : w.entries.get? name with
  | none => exact .refl w
  | some entry => exact each entry found

theorem keeps_handle {β : Type} {handle : Option β} {f : β → Answer × World}
    (each : ∀ x, handle = some x → w.Keeps [] (f x).2) : w.Keeps [] (w.withHandle handle f).2 := by
  cases handle with
  | none => exact .refl w
  | some x => exact each x rfl

theorem keeps_hands {entries : Names EntryId} {waits : Names Wait}
    (made : ∀ other, isKept { w with entries, waits } other = true →
      w.isKept other = true ∨ other < w.registry.cells.length) :
    w.Keeps [] { w with entries, waits } := .of_eq rfl rfl (fun _ => .inl) made

theorem keeps_pollWait {wait : Wait} {others : Names Wait} (fewer : others.things ⊆ w.waits.things)
    (made : wait.entry < w.registry.cells.length) : w.Keeps [] (w.pollWait name wait others).2 := by
  obtain ⟨waits, same, each⟩ := w.pollWait_eq name wait fewer
  rw [same]
  refine keeps_hands fun other kept => ?_
  rcases each other kept with old | rfl
  · exact .inl old
  · exact .inr made

theorem keeps_sights (watches streams : Names Watch) : w.Keeps [] { w with watches, streams } :=
  .of_eq rfl rfl (fun _ => .inl) fun _ => .inl

theorem keeps_step (intact : w.Intact) (inRuntime : Bool) (command : Command) :
    w.Keeps (w.commandLog inRuntime command) (w.step inRuntime command).2 := by
  have unchanged {β : Type} {handle : Option β} {f : β → Answer} :
      w.Keeps [] (w.withHandle handle fun x => (f x, w)).2 := keeps_handle fun _ _ => .refl w
  cases command with
  | setReplies replies => exact .of_eq rfl rfl (fun _ => .inl) fun _ => .inl
  | hold => exact .of_eq rfl rfl (fun _ => .inl) fun _ => .inl
  | unhold => exact .of_eq rfl rfl (fun _ => .inl) fun _ => .inl
  | release =>
    obtain ⟨flights, released, claims⟩ := w.release_eq
    simp only [step, released]
    refine .of_eq ?_ rfl (fun _ => .inl) fun _ => .inl
    simp only [custody, claims]
  | restart => exact keeps_restart w
  | channels number =>
    exact keeps_feed fun feed => (w.keeps_entry feed).trans (keeps_startFetch inRuntime feed (intact.entry feed).2)
  | load number name =>
    exact keeps_feed fun feed =>
      (w.keeps_entry feed).trans (keeps_begin (c := .load feed _) (intact.entry feed).2 inRuntime name)
  | refetch number name =>
    refine keeps_feed fun feed => ?_
    have made := (intact.entry feed).2
    have marked := keeps_markStale made
    refine (w.keeps_entry feed).trans (marked.trans ?_)
    exact keeps_begin (c := .refetch feed _ _) (Nat.lt_of_lt_of_le made marked.grows) inRuntime name
  | cancel name =>
    exact keeps_handle fun _ _ => .of_eq rfl rfl (fun _ there => .inl (List.mem_of_mem_eraseP there)) fun _ => .inl
  | state number => exact unchanged
  | invalidate number => exact keeps_feed fun feed => keeps_invalidate intact.closed feed.cache channelsKey
  | notify number trigger => exact keeps_feed fun feed => keeps_notify intact.closed inRuntime feed trigger
  | options number => exact unchanged
  | subscribe number name =>
    refine keeps_feed fun feed => ?_
    have started := (w.keeps_entry feed).trans (keeps_startFetch inRuntime feed (intact.entry feed).2)
    exact List.append_nil (fetchLog inRuntime (w.entry feed).1) ▸ started.trans (keeps_sights _ _)
  | current name => exact unchanged
  | watchState name => exact unchanged
  | changed name => exact keeps_handle fun _ _ => keeps_sights _ _
  | intoStream name other => exact keeps_handle fun _ _ => keeps_sights _ _
  | next name =>
    refine keeps_handle fun _ _ => ?_
    split <;> exact keeps_sights _ _
  | cacheEntry cache key =>
    simp only [step, Registry.entry_eq_getOrAdd]
    exact w.keeps_getOrAdd cache key
  | cacheInvalidate cache key => exact keeps_invalidate intact.closed cache key
  | cacheRemove cache key => exact w.keeps_remove cache key
  | cacheClear cache => exact w.keeps_clear cache
  | cacheSize cache => exact .refl w
  | claim cache name =>
    have added := w.keeps_getOrAdd cache channelsKey
    have made := intact.closed.getOrAdd_lt cache channelsKey
    simp only [step, claim, commandLog, Registry.entry_eq_getOrAdd]
    exact added.trans (keeps_claimEntry (w := { w with registry := _ }) (added.distinct intact.distinct) made name)
  | settle name state =>
    simp only [step, commandLog]
    cases found : w.claims.get? name with
    | none => exact .refl w
    | some claim => exact keeps_settle intact.distinct found state
  | dropClaim name =>
    have given := keeps_giveUp intact.distinct name
    simp only [step, commandLog]
    cases found : w.claims.get? name with
    | none =>
      rw [giveUpLog, found]
      exact .refl w
    | some claim => exact given
  | keep cache key name =>
    simp only [step, Registry.entry_eq_getOrAdd]
    have made := intact.closed.getOrAdd_lt cache key
    refine (w.keeps_getOrAdd cache key).trans (keeps_hands (w := { w with registry := _ }) fun other kept => ?_)
    rcases isKept_put kept with old | rfl
    · exact .inl old
    · exact .inr made
  | look name => exact unchanged
  | mark name => exact keeps_kept fun entry found => keeps_markStale (intact.kept entry (isKept_of_entry found))
  | claimKept kept name =>
    exact keeps_kept fun entry found =>
      keeps_claimEntry intact.distinct (intact.kept entry (isKept_of_entry found)) name
  | wait kept name =>
    exact keeps_handle fun entry found =>
      keeps_pollWait (List.Subset.refl _) (intact.kept entry (isKept_of_entry found))
  | pollWait name =>
    exact keeps_handle fun wait found =>
      keeps_pollWait (fun _ => Names.mem_things_of_erase) (intact.kept wait.entry (isKept_of_wait found))
  | dropWait name => exact keeps_handle fun _ _ => keeps_hands fun _ kept => .inl (isKept_of_dropWait kept)
  | letGo name => exact keeps_handle fun _ _ => keeps_hands fun _ kept => .inl (isKept_of_letGo kept)

/-- A turn is made of accesses that carry out the operations of its log. -/
theorem keeps_turn (intact : w.Intact) (turn : Turn) : w.Keeps (w.log turn) (w.turn turn) := by
  cases turn with
  | command inRuntime command => exact keeps_step intact inRuntime command
  | poll inRuntime place =>
    cases there : w.calls[place]? with
    | none =>
      simp only [World.turn, World.log, there]
      exact .refl w
    | some pair =>
      obtain ⟨name, c⟩ := pair
      simp only [turn_poll there, World.log, there]
      exact keeps_poll (intact.calls _ (List.mem_of_getElem? there)) inRuntime name fun _ => List.mem_of_mem_eraseIdx
  | fly place => exact keeps_fly place

theorem keeps_turns (intact : w.Intact) (turns : List Turn) : w.Keeps (w.logs turns) (w.turns turns) := by
  induction turns generalizing w with
  | nil => exact .refl w
  | cons turn turns ih =>
    have first := keeps_turn intact turn
    exact first.trans (ih (intact.keeps first))

namespace Intact

theorem turn (intact : w.Intact) (turn : Turn) : (w.turn turn).Intact := intact.keeps (keeps_turn intact turn)

theorem turns (intact : w.Intact) (turns : List Turn) : (w.turns turns).Intact :=
  intact.keeps (keeps_turns intact turns)

theorem length_claimsOn (intact : w.Intact) (entry : EntryId) :
    (w.claimsOn entry).length = if (w.registry.slot entry).isFetching then 1 else 0 :=
  Custody.claims_on intact.sound entry

theorem length_claimsOn_le (intact : w.Intact) (entry : EntryId) : (w.claimsOn entry).length ≤ 1 := by
  rw [intact.length_claimsOn]
  split <;> omega

end Intact

end

/-- A slot is marked as being fetched exactly while one claim is on it, which a fetch on its way holds or whoever took
it by hand, and never more. So it is after any turns in any order, and thus after any commands, and also if the
accesses of many threads are mixed, where the mark of a claim stays whatever other claims come to. -/
theorem marked_iff_claimed :
    (∀ (network : Http.Network) (caches : Nat) (feeds : List Feed) (turns : List Turn) (entry : EntryId),
      (((start network caches feeds).turns turns).claimsOn entry).length =
        if (((start network caches feeds).turns turns).registry.slot entry).isFetching then 1 else 0) ∧
    (∀ (network : Http.Network) (caches : Nat) (feeds : List Feed) (commands : List (Bool × Command))
        (entry : EntryId),
      (((start network caches feeds).run commands).2.claimsOn entry).length =
        if (((start network caches feeds).run commands).2.registry.slot entry).isFetching then 1 else 0) ∧
    ∀ (caches : Nat) (past : List (Access (List Channel))) (s : Shared (List Channel)),
      (Shared.start caches).run past = some s → ∀ entry,
        ((s.live entry).length = if (s.registry.slot entry).isFetching then 1 else 0) ∧
          ∀ h ∈ s.live entry, ∀ a t, s.step a = some t → a.ends h = false →
            h ∈ t.live entry ∧ (t.registry.slot entry).isFetching = true := by
  refine ⟨?_, ?_, ?_⟩
  · intro network caches feeds turns entry
    exact ((intact_start network caches feeds).turns turns).length_claimsOn entry
  · intro network caches feeds commands entry
    obtain ⟨turns, same⟩ := run_turns (start network caches feeds) commands
    rw [← same]
    exact ((intact_start network caches feeds).turns turns).length_claimsOn entry
  · intro caches past s ran entry
    have sound := (Shared.sound_start caches).run ran
    refine ⟨sound.single entry, ?_⟩
    intro h live a t made other
    exact Shared.isFetching_step sound made live other

/-- A claim taken by hand marks its slot. One that settled it before and is let go late leaves the mark. -/
theorem marked_while_claimed :
    (((start (.answering []) 1 []).turns [.command true (.claim 0 "first")]).claimsOn 0).length = 1 ∧
    ∃ s t : Shared (List Channel), (Shared.start 1).run ((markedInFlight []).drop 2) = some s ∧
      ⟨1, ⟨0, 1⟩, false⟩ ∈ s.live 0 ∧ s.step (.drop ⟨0, ⟨0, 0⟩, true⟩) = some t ∧
      ⟨1, ⟨0, 1⟩, false⟩ ∈ t.live 0 ∧ (t.registry.slot 0).isFetching = true := by
  have ran : (Shared.start 1 : Shared (List Channel)).run ((markedInFlight []).drop 2) = some _ := rfl
  have live := List.mem_singleton.mpr (rfl : (⟨1, ⟨0, 1⟩, false⟩ : Held) = ⟨1, ⟨0, 1⟩, false⟩)
  refine ⟨?_, _, _, ran, live, rfl, ?_⟩
  · exact marked_iff_claimed.1 (.answering []) 1 [] [.command true (.claim 0 "first")] 0
  · exact (marked_iff_claimed.2.2 1 _ _ ran 0).2 _ live (.drop ⟨0, ⟨0, 0⟩, true⟩) _ rfl rfl

end World

end ChannelFeed
