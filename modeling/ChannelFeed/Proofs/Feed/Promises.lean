import ChannelFeed.Proofs.Feed.Reaching
import ChannelFeed.Proofs.Feed.Results
import ChannelFeed.Proofs.Feed.Waking
import Mathlib.Data.List.Perm.Basic

/-!
# Promises

A slot promises what is fetched at a generation or later if it holds it already or if the claim on it was taken then or
later. No turn takes a promise back unless a fetch of the slot is dropped in it: a fetch that ends leaves behind what it
promised, and what is newer never makes way for what is older.
-/
namespace ChannelFeed

open Cache

namespace Cache

variable {α : Type}

/-- Whether a fetch ends and brings something. -/
def Operation.isSettlement : Operation α → Bool
  | .settle _ _ => true
  | _ => false

def Operation.isRelease : Operation α → Bool
  | .release => true
  | _ => false

/-- How many fetches of a slot are dropped in a log. -/
def Log.releases (log : Log α) (entry : EntryId) : Nat := (log.on entry).countP (·.isRelease)

theorem Log.releases_append (first rest : Log α) (entry : EntryId) :
    releases (first ++ rest) entry = first.releases entry + rest.releases entry := by
  rw [releases, on_append, List.countP_append]
  rfl

theorem Log.releases_pos_of_mem {log : Log α} {entry : EntryId} (there : (entry, .release) ∈ log) :
    0 < log.releases entry := by
  exact List.countP_pos_iff.mpr ⟨.release, mem_on.mpr there, rfl⟩

/-- Only a fetch that brings something changes at which generation the state of a slot was fetched. -/
theorem settledGeneration_replay {operations : List (Operation α)} (c : Cell α)
    (unsettled : ∀ operation ∈ operations, operation.isSettlement = false) :
    (replay c operations).slot.settledGeneration = c.slot.settledGeneration := by
  induction operations generalizing c with
  | nil => rfl
  | cons operation operations ih =>
    obtain ⟨first, rest⟩ := List.forall_mem_cons.mp unsettled
    refine (ih (operation.on c) rest).trans ?_
    cases operation with
    | claim =>
      rw [Operation.on]
      split <;> rfl
    | mark => rfl
    | settle generation state => cases first
    | release => rfl

end Cache

namespace World

variable {w w' : World} {before : Nat} {entry : EntryId} {since : Nat} {claim : Claim}

theorem mem_claimsOn : claim ∈ w.claimsOn entry ↔ claim ∈ w.custody.claims ∧ claim.entry = entry := by
  rw [claimsOn, List.mem_filter, beq_iff_eq]

theorem Intact.claimsOn_unique (intact : w.Intact) {other : Claim} (there : claim ∈ w.claimsOn entry)
    (also : other ∈ w.claimsOn entry) : other = claim := by
  have few := intact.length_claimsOn_le entry
  match only : w.claimsOn entry with
  | [] => rw [only] at there; cases there
  | [one] =>
    rw [only, List.mem_singleton] at there also
    rw [there, also]
  | one :: two :: more =>
    rw [only, List.length_cons, List.length_cons] at few
    omega

/-- A claim was taken no earlier than the one that the state of its slot comes from, and no later than now. -/
theorem Intact.claimsOn_between (intact : w.Intact) (there : claim ∈ w.claimsOn entry) :
    (w.registry.slot entry).settledGeneration ≤ claim.generation ∧
      claim.generation ≤ (w.registry.slot entry).generation := by
  obtain ⟨caches, past, s, ran, shows⟩ := intact.shown
  obtain ⟨holds, on⟩ := mem_claimsOn.mp there
  obtain ⟨h, held, rfl⟩ := List.mem_map.mp (shows.claims.mem_iff.mpr holds)
  have between := (told_run entry ran).between h (Shared.mem_live.mpr ⟨held, shows.unsettled h held, on⟩)
  rw [shows.registry] at between
  exact between

/-- While no claim ends, those on a slot that is marked were there before. -/
theorem Change.claimsOn_sub (change : Change False before w w')
    (busy : (w.registry.slot entry).isFetching = true) : w'.claimsOn entry ⊆ w.claimsOn entry := by
  have same {v : World} (kept : v.custody.claims ⊆ w.custody.claims) : v.claimsOn entry ⊆ w.claimsOn entry :=
    fun _ there => mem_claimsOn.mpr ⟨kept (mem_claimsOn.mp there).1, (mem_claimsOn.mp there).2⟩
  cases change with
  | exchange kept =>
    exact same (List.append_subset.mpr ⟨List.subset_append_of_subset_left _ kept, List.subset_append_right _ _⟩)
  | launch feed known made granted =>
    obtain ⟨can, rfl, rfl⟩ := Registry.claim?_eq_some.mp granted
    intro claim there
    obtain ⟨holds, on⟩ := mem_claimsOn.mp there
    simp only [custody, World.launch, List.map_append, List.map_cons, List.map_nil, List.mem_append,
      List.mem_singleton] at holds
    rcases holds with (old | new) | byHand
    · exact mem_claimsOn.mpr ⟨List.mem_append_left _ old, on⟩
    · have idle := Slot.isFetching_of_canClaim can
      rw [← on, new] at busy
      exact absurd busy (Bool.eq_false_iff.mp idle)
    · exact mem_claimsOn.mpr ⟨List.mem_append_right _ byHand, on⟩
  | take may => exact may.elim
  | finish may => exact may.elim
  | _ => exact same (List.Subset.refl _)

theorem Changes.claimsOn_sub (changes : Changes False before w w')
    (busy : (w.registry.slot entry).isFetching = true) : w'.claimsOn entry ⊆ w.claimsOn entry := by
  induction changes with
  | refl => exact List.Subset.refl _
  | tail earlier change ih =>
    have still := (Changes.leaves earlier).isFetching entry busy
    exact List.Subset.trans (change.claimsOn_sub still) ih

/-- A slot holds what was fetched at a generation or later, or a claim that was taken then or later is on it. -/
def Promises (w : World) (entry : EntryId) (since : Nat) : Prop :=
  since ≤ (w.registry.slot entry).settledGeneration ∨ ∃ claim ∈ w.claimsOn entry, since ≤ claim.generation

namespace Promises

/-- The state of the slot is as old as it was, and the claims on it are still held. -/
theorem of_kept (promises : w.Promises entry since)
    (same : (w'.registry.slot entry).settledGeneration = (w.registry.slot entry).settledGeneration)
    (kept : ∀ claim ∈ w.custody.claims, claim.entry = entry → claim ∈ w'.custody.claims) :
    w'.Promises entry since := by
  rcases promises with now | ⟨claim, there, late⟩
  · exact .inl (same ▸ now)
  · obtain ⟨holds, on⟩ := mem_claimsOn.mp there
    exact .inr ⟨claim, mem_claimsOn.mpr ⟨kept claim holds on, on⟩, late⟩

theorem settle (promises : w.Promises entry since) (intact : w.Intact) (holds : claim ∈ w.custody.claims)
    {state : ChannelState} (settled : w'.registry = w.registry.settle claim state)
    (kept : ∀ other ∈ w.custody.claims, other ≠ claim → other ∈ w'.custody.claims) : w'.Promises entry since := by
  have slot : (w.registry.settle claim state).slot entry = _ :=
    w.registry.slot_update entry (·.settled claim.generation state) (intact.inside holds)
  rw [← settled] at slot
  by_cases same : entry = claim.entry
  · rw [if_pos same] at slot
    have there : claim ∈ w.claimsOn entry := mem_claimsOn.mpr ⟨holds, same.symm⟩
    refine .inl ?_
    rw [slot]
    change since ≤ claim.generation
    rcases promises with now | ⟨other, also, late⟩
    · exact Nat.le_trans now (intact.claimsOn_between there).1
    · exact intact.claimsOn_unique there also ▸ late
  · rw [if_neg same] at slot
    refine promises.of_kept (congrArg Slot.settledGeneration slot) ?_
    rintro other held rfl
    exact kept other held fun equal => same (congrArg Claim.entry equal)

theorem becomes (promises : w.Promises entry since) (intact : w.Intact) (intact' : w'.Intact)
    (becomes : Becomes False before w w') : w'.Promises entry since := by
  have left := becomes.leaves
  rcases promises with now | ⟨claim, there, late⟩
  · exact .inl (left.settledGeneration entry ▸ now)
  · have busy := (intact.claimsOn_ne_nil entry).mp (List.ne_nil_of_mem there)
    obtain ⟨other, also⟩ :=
      List.exists_mem_of_ne_nil _ ((intact'.claimsOn_ne_nil entry).mpr (left.isFetching entry busy))
    obtain ⟨m, watches, streams, changes, rfl, -⟩ := becomes
    have before : other ∈ w.claimsOn entry := changes.claimsOn_sub busy also
    exact .inr ⟨other, also, intact.claimsOn_unique there before ▸ late⟩

theorem fly (promises : w.Promises entry since) (intact : w.Intact) (place : Nat) :
    (w.turn (.fly place)).Promises entry since := by
  simp only [World.turn]
  cases there : w.flights[place]? with
  | none => exact promises
  | some f =>
    obtain ⟨inside, rfl⟩ := List.getElem?_eq_some_iff.mp there
    have apart := (List.getElem_cons_eraseIdx_perm inside).map Flight.claim
    have holds : w.flights[place].claim ∈ w.custody.claims :=
      List.mem_append_left _ (List.mem_map_of_mem (List.getElem_mem inside))
    have kept (other : Claim) (held : other ∈ w.custody.claims) (different : other ≠ w.flights[place].claim) :
        other ∈ (w.flights.eraseIdx place).map Flight.claim ++ w.claims.things := by
      rcases List.mem_append.mp held with flies | byHand
      · rcases List.mem_cons.mp (apart.mem_iff.mpr flies) with same | others
        · exact absurd same different
        · exact List.mem_append_left _ others
      · exact List.mem_append_right _ byHand
    dsimp only
    obtain ⟨fetched, -, same⟩ | ⟨-, same⟩ :=
      runFlight_cases { w with flights := w.flights.eraseIdx place } w.flights[place]
    · rw [same]
      exact promises.settle intact holds rfl kept
    · rw [same]
      refine promises.of_kept rfl fun other held _ => ?_
      simp only [custody, List.map_append, List.map_cons, List.map_nil, List.append_assoc]
      by_cases same : other = w.flights[place].claim
      · rw [same]
        exact List.mem_append_right _ (List.mem_append_left _ (List.mem_singleton.mpr rfl))
      · refine (List.mem_append.mp (kept other held same)).elim (List.mem_append_left _) fun byHand => ?_
        exact List.mem_append_right _ (List.mem_append_right _ byHand)

/-- A turn in which no claim settles the slot, and claims on it are kept. -/
theorem unsettled (promises : w.Promises entry since) (intact : w.Intact) {turn : Turn}
    (unsettled : ∀ operation, (entry, operation) ∈ w.log turn → operation.isSettlement = false)
    (kept : ∀ claim ∈ w.custody.claims, claim.entry = entry → claim ∈ (w.turn turn).custody.claims) :
    (w.turn turn).Promises entry since := by
  refine promises.of_kept ?_ kept
  have followed : (w.turn turn).registry.cell entry = _ := intact.follows (keeps_turn intact turn) entry
  rw [Registry.slot, Registry.slot, followed]
  exact settledGeneration_replay _ fun operation there => unsettled operation (Log.mem_on.mp there)

/-- A claim stays in hands when the one under a name is given up, unless it is that one. -/
theorem mem_erase_of_giveUp (intact : w.Intact) {name : String} (held : claim ∈ w.claims.things)
    (other : (claim.entry, .release) ∉ w.giveUpLog name) : claim ∈ (w.claims.erase name).things := by
  cases found : w.claims.get? name with
  | none =>
    rw [Names.erase_eq_self_of_get?_eq_none found]
    exact held
  | some old =>
    rcases List.mem_cons.mp ((Names.things_perm_of_get? intact.distinct found).mem_iff.mp held) with rfl | rest
    · refine absurd ?_ other
      rw [giveUpLog, found]
      exact List.mem_singleton.mpr rfl
    · exact rest

theorem isSettlement_of_mem_claimLog {asked : EntryId} {name : String} {operation : Operation (List Channel)}
    (there : (entry, operation) ∈ w.claimLog asked name) : operation.isSettlement = false := by
  rcases mem_claimLog.mp there with ⟨-, rfl⟩ | ⟨-, given⟩
  · rfl
  · rw [(mem_giveUpLog.mp given).2]
    rfl

/-- A claim stays in hands when another one is taken by hand, unless it is the one that was under its name. -/
theorem mem_claims_of_claimEntry (intact : w.Intact) {asked : EntryId} {name : String}
    (held : claim ∈ w.custody.claims) (other : (claim.entry, .release) ∉ w.claimLog asked name) :
    claim ∈ (w.claimEntry asked name).2.custody.claims := by
  unfold World.claimEntry
  cases granted : w.registry.claim? asked with
  | none => exact held
  | some taken =>
    rw [claimLog, if_pos (Registry.claim?_eq_some.mp granted).1, List.mem_cons, not_or] at other
    have hands (r : Registry (List Channel)) : (giveUp { w with registry := r } name).flights = w.flights ∧
        (giveUp { w with registry := r } name).claims = w.claims.erase name := by
      unfold giveUp
      cases found : w.claims.get? name with
      | none => exact ⟨rfl, (Names.erase_eq_self_of_get?_eq_none found).symm⟩
      | some old => exact ⟨rfl, rfl⟩
    simp only [custody, hands]
    rcases List.mem_append.mp held with flies | byHand
    · exact List.mem_append_left _ flies
    · have kept := mem_erase_of_giveUp intact byHand other.2
      have still : (w.claims.erase name).erase name = w.claims.erase name := by
        refine Names.erase_eq_self_of_get?_eq_none ?_
        rw [Names.get?_erase, if_pos rfl]
      refine List.mem_append_right _ ?_
      rw [Names.put, still, Names.things, List.map_append]
      exact List.mem_append_left _ kept

theorem restart (promises : w.Promises entry since) (intact : w.Intact) {inRuntime : Bool}
    (none : (entry, .release) ∉ w.log (.command inRuntime .restart)) :
    (w.turn (.command inRuntime .restart)).Promises entry since := by
  refine promises.unsettled intact ?_ ?_
  · intro operation there
    obtain ⟨f, -, ⟨⟩⟩ := List.mem_map.mp there
    rfl
  · rintro claim held rfl
    rcases List.mem_append.mp held with flies | byHand
    · obtain ⟨f, there, rfl⟩ := List.mem_map.mp flies
      exact absurd (List.mem_map.mpr ⟨f, there, rfl⟩) none
    · exact List.mem_append_right _ byHand

/-- A claim is taken by hand, and the one that was under its name is on another slot. -/
theorem take (promises : w.Promises entry since) (intact : w.Intact) {inRuntime : Bool} {cache : Nat} {name : String}
    (none : (entry, .release) ∉ w.log (.command inRuntime (.claim cache name))) :
    (w.turn (.command inRuntime (.claim cache name))).Promises entry since := by
  refine promises.unsettled intact (fun operation there => isSettlement_of_mem_claimLog there) ?_
  rintro claim held rfl
  simp only [World.turn, World.step, World.claim, Registry.entry_eq_getOrAdd]
  exact mem_claims_of_claimEntry (intact.keeps (w.keeps_getOrAdd cache channelsKey)) held none

theorem takeKept (promises : w.Promises entry since) (intact : w.Intact) {inRuntime : Bool} {kept name : String}
    (none : (entry, .release) ∉ w.log (.command inRuntime (.claimKept kept name))) :
    (w.turn (.command inRuntime (.claimKept kept name))).Promises entry since := by
  refine promises.unsettled intact ?_ ?_
  · intro operation there
    obtain ⟨asked, -, claimed⟩ := mem_of_mem_keptLog there
    exact isSettlement_of_mem_claimLog claimed
  · rintro claim held rfl
    simp only [World.turn, World.step]
    cases found : w.entries.get? kept with
    | none => exact held
    | some asked =>
      simp only [log, commandLog, keptLog, found] at none
      exact mem_claims_of_claimEntry intact held none

theorem byHand (promises : w.Promises entry since) (intact : w.Intact) (inRuntime : Bool) (name : String)
    (state : ChannelState) : (w.turn (.command inRuntime (.settle name state))).Promises entry since := by
  simp only [World.turn, World.step]
  cases found : w.claims.get? name with
  | none => exact promises
  | some claim =>
    have holds := List.mem_append_right (w.flights.map Flight.claim) (Names.mem_things_of_get? found)
    refine promises.settle intact holds rfl fun other held different => ?_
    rcases List.mem_append.mp held with flies | byHand
    · exact List.mem_append_left _ flies
    · refine List.mem_append_right _ ?_
      have there := (Names.things_perm_of_get? intact.distinct found).mem_iff.mp byHand
      exact (List.mem_cons.mp there).resolve_left different

theorem letGo (promises : w.Promises entry since) (intact : w.Intact) {inRuntime : Bool} {name : String}
    (none : (entry, .release) ∉ w.log (.command inRuntime (.dropClaim name))) :
    (w.turn (.command inRuntime (.dropClaim name))).Promises entry since := by
  refine promises.unsettled intact (fun operation there => by rw [(mem_giveUpLog.mp there).2]; rfl) ?_
  rintro claim held rfl
  simp only [World.turn, World.step]
  cases found : w.claims.get? name with
  | none => exact held
  | some old =>
    simp only [withHandle, giveUp, found]
    rcases List.mem_append.mp held with flies | byHand
    · exact List.mem_append_left _ flies
    · exact List.mem_append_right _ (mem_erase_of_giveUp intact byHand none)

theorem turn (promises : w.Promises entry since) (ready : w.Ready) {turn : Turn}
    (none : (entry, .release) ∉ w.log turn) : (w.turn turn).Promises entry since := by
  have intact := ready.toIntact
  have after := intact.turn turn
  have becomes := becomes_turn ready turn
  cases turn with
  | fly place => exact promises.fly intact place
  | poll inRuntime place => exact promises.becomes intact after becomes
  | command inRuntime command =>
    cases command with
    | restart => exact promises.restart intact none
    | claim cache name => exact promises.take intact none
    | claimKept kept name => exact promises.takeKept intact none
    | settle name state => exact promises.byHand intact inRuntime name state
    | dropClaim name => exact promises.letGo intact none
    | _ => exact promises.becomes intact after becomes

end Promises

end World

end ChannelFeed
