import ChannelFeed.Proofs.Sharing.Replay

/-!
# Who holds the claims

Claims are in many hands: those of the fetches on their way, and of whoever took one by hand. All of them together
with the slots are what can be told apart from outside of what is shared. Here is what each operation does to
them, and that it is made of accesses which do no more to the slots than it says: what holds of every run of accesses
holds of every run of operations.
-/
namespace ChannelFeed.Cache

variable {α : Type}

/-- All slots, and all claims that are in someone's hands and have not settled their slot. -/
structure Custody (α : Type) where
  registry : Registry α
  claims : List Claim

namespace Custody

/-- What is shared is in this custody. The order of the claims does not matter. -/
structure Shows (c : Custody α) (s : Shared α) : Prop where
  registry : s.registry = c.registry
  claims : (s.held.map Held.claim).Perm c.claims
  unsettled : ∀ h ∈ s.held, h.isSettled = false

/-- Accesses that carry out these operations, in this order, lead from one custody to another. -/
def LeadsTo (c : Custody α) (log : Log α) (d : Custody α) : Prop :=
  ∀ s : Shared α, s.Sound → c.Shows s → ∃ later t, s.run later = some t ∧ d.Shows t ∧ Access.log later = log

variable {c d e : Custody α} {r : Registry α} {claims : List Claim} {log rest : Log α}

theorem LeadsTo.refl (c : Custody α) : c.LeadsTo [] c := by
  intro s sound shows
  exact ⟨[], s, rfl, shows, rfl⟩

theorem LeadsTo.trans (first : c.LeadsTo log d) (second : d.LeadsTo rest e) : c.LeadsTo (log ++ rest) e := by
  intro s sound shows
  obtain ⟨early, m, ran, between, rfl⟩ := first s sound shows
  obtain ⟨late, t, on, after, rfl⟩ := second m (sound.run ran) between
  exact ⟨late ++ early, t, Shared.run_append.mpr ⟨m, ran, on⟩, after, Access.log_append late early⟩

theorem LeadsTo.regroup {others : List Claim} (same : claims.Perm others) :
    LeadsTo ⟨r, claims⟩ [] ⟨r, others⟩ := by
  intro s sound shows
  exact ⟨[], s, rfl, ⟨shows.registry, shows.claims.trans same, shows.unsettled⟩, rfl⟩

theorem LeadsTo.regrouped {others : List Claim} (leads : c.LeadsTo log ⟨r, claims⟩) (same : claims.Perm others) :
    c.LeadsTo log ⟨r, others⟩ := by
  intro s sound shows
  obtain ⟨later, t, ran, after, logged⟩ := leads s sound shows
  exact ⟨later, t, ran, ⟨after.registry, after.claims.trans same, after.unsettled⟩, logged⟩

theorem LeadsTo.follows (leads : c.LeadsTo log d) {s : Shared α} (sound : s.Sound) (shows : c.Shows s) :
    c.registry.Follows log d.registry := by
  obtain ⟨later, t, ran, after, rfl⟩ := leads s sound shows
  rw [← shows.registry, ← after.registry]
  exact Shared.follows_run sound ran

theorem LeadsTo.of_step {r' : Registry α} {a : Access α}
    (made : ∀ s : Shared α, s.registry = r → s.step a = some { s with registry := r' }) :
    LeadsTo ⟨r, claims⟩ a.operation?.toList ⟨r', claims⟩ := by
  intro s sound shows
  refine ⟨[a], { s with registry := r' }, ?_, ⟨rfl, shows.claims, shows.unsettled⟩, Access.log_cons a []⟩
  exact Shared.run_cons.mpr ⟨s, rfl, made s shows.registry⟩

theorem leadsTo_getOrAdd (cache : Nat) (key : String) :
    LeadsTo ⟨r, claims⟩ [] ⟨(r.getOrAdd cache key).2, claims⟩ := by
  refine .of_step (a := .add cache key) ?_
  rintro s rfl
  rfl

theorem leadsTo_remove (cache : Nat) (key : String) : LeadsTo ⟨r, claims⟩ [] ⟨(r.remove cache key).2, claims⟩ := by
  refine .of_step (a := .remove cache key) ?_
  rintro s rfl
  rfl

theorem leadsTo_clear (cache : Nat) : LeadsTo ⟨r, claims⟩ [] ⟨r.clear cache, claims⟩ := by
  refine .of_step (a := .clear cache) ?_
  rintro s rfl
  rfl

theorem leadsTo_markStale {entry : EntryId} (made : entry < r.cells.length) :
    LeadsTo ⟨r, claims⟩ [(entry, .mark)] ⟨(r.markStale entry).2, claims⟩ := by
  refine .of_step (a := .mark entry) ?_
  rintro s rfl
  exact Shared.step_mark.mpr ⟨made, rfl⟩

theorem leadsTo_refuse {entry : EntryId} (refused : r.claim? entry = none) :
    LeadsTo ⟨r, claims⟩ [(entry, .claim)] ⟨r, claims⟩ := by
  refine .of_step (a := .refuse entry) ?_
  rintro s rfl
  exact Shared.step_refuse.mpr ⟨Registry.claim?_eq_none.mp refused, rfl⟩

theorem leadsTo_claim {entry : EntryId} {claim : Claim} {r' : Registry α} (made : entry < r.cells.length)
    (granted : r.claim? entry = some (claim, r')) : LeadsTo ⟨r, claims⟩ [(entry, .claim)] ⟨r', claims ++ [claim]⟩ := by
  intro s sound shows
  obtain rfl : s.registry = r := shows.registry
  obtain ⟨can, rfl, rfl⟩ := Registry.claim?_eq_some.mp granted
  let h : Held := ⟨s.taken, ⟨entry, (s.registry.slot entry).generation⟩, false⟩
  refine ⟨[.claim h], ⟨s.registry.update entry Slot.claimed, s.held ++ [h], s.taken + 1⟩, ?_, ⟨rfl, ?_, ?_⟩, rfl⟩
  · exact Shared.run_cons.mpr ⟨s, rfl, Shared.step_claim.mpr ⟨made, can, rfl, rfl⟩⟩
  · rw [List.map_append]
    exact shows.claims.append_right _
  · intro h holds
    rcases List.mem_append.mp holds with old | new
    · exact shows.unsettled h old
    · rw [List.mem_singleton.mp new]

theorem Shows.holder {s : Shared α} {claim : Claim} (shows : Shows ⟨r, claim :: claims⟩ s) (sound : s.Sound) :
    ∃ h ∈ s.held, h.claim = claim ∧ ((s.held.filter (· ≠ h)).map Held.claim).Perm claims := by
  obtain ⟨h, holds, rfl⟩ := List.mem_map.mp (shows.claims.mem_iff.mpr List.mem_cons_self)
  have on : h.isLiveOn h.claim.entry = true := (h.isLiveOn_iff _).mpr ⟨shows.unsettled h holds, rfl⟩
  have alone := (sound.alone (List.mem_filter.mpr ⟨holds, on⟩)).1
  have once : s.held.count h = 1 := by
    have counted : (s.live h.claim.entry).count h = s.held.count h := List.count_filter on
    rw [← counted, alone, List.count_singleton_self]
  have apart : s.held.Perm (h :: s.held.filter (· ≠ h)) := by
    rw [List.perm_iff_count]
    intro other
    by_cases same : other = h
    · subst same
      have none : (s.held.filter (· ≠ other)).count other = 0 := by
        rw [List.count_eq_zero]
        intro there
        exact absurd rfl (of_decide_eq_true (List.mem_filter.mp there).2)
      rw [once, List.count_cons_self, none]
    · have kept : (s.held.filter (· ≠ h)).count other = s.held.count other :=
        List.count_filter (decide_eq_true same)
      rw [List.count_cons_of_ne (Ne.symm same), kept]
  refine ⟨h, holds, rfl, ?_⟩
  exact ((apart.map Held.claim).symm.trans shows.claims).cons_inv

theorem leadsTo_settle (claim : Claim) (state : FetchState α) :
    LeadsTo ⟨r, claim :: claims⟩ [(claim.entry, .settle claim.generation state)] ⟨r.settle claim state, claims⟩ := by
  intro s sound shows
  obtain ⟨h, holds, rfl, rest⟩ := shows.holder sound
  obtain rfl : s.registry = r := shows.registry
  have unsettled := shows.unsettled h holds
  have fewer : (s.held.filter (· ≠ h) ++ [h.spent]).filter (· ≠ h.spent) = s.held.filter (· ≠ h) := by
    have others : (s.held.filter (· ≠ h)).filter (· ≠ h.spent) = s.held.filter (· ≠ h) := by
      rw [List.filter_eq_self]
      intro other there
      refine decide_eq_true ?_
      rintro rfl
      exact absurd (shows.unsettled _ (List.mem_filter.mp there).1) (by simp [Held.spent])
    rw [List.filter_append, others]
    simp
  refine ⟨[.drop h.spent, .settle h state], ⟨s.registry.settle h.claim state, s.held.filter (· ≠ h), s.taken⟩, ?_,
    ⟨rfl, rest, ?_⟩, rfl⟩
  · have settled : s.step (.settle h state) = some _ := Shared.step_settle.mpr ⟨⟨holds, unsettled⟩, rfl⟩
    refine Shared.run_cons.mpr ⟨_, Shared.run_cons.mpr ⟨s, rfl, settled⟩, Shared.step_drop.mpr ⟨?_, ?_⟩⟩
    · exact List.mem_append_right _ (List.mem_singleton.mpr rfl)
    · rw [fewer]
      rfl
  · intro other there
    exact shows.unsettled other (List.mem_filter.mp there).1

theorem leadsTo_release (claim : Claim) :
    LeadsTo ⟨r, claim :: claims⟩ [(claim.entry, .release)] ⟨r.release claim, claims⟩ := by
  intro s sound shows
  obtain ⟨h, holds, rfl, rest⟩ := shows.holder sound
  obtain rfl : s.registry = r := shows.registry
  have unsettled := shows.unsettled h holds
  refine ⟨[.drop h], ⟨s.registry.release h.claim, s.held.filter (· ≠ h), s.taken⟩, ?_, ⟨rfl, rest, ?_⟩, ?_⟩
  · refine Shared.run_cons.mpr ⟨s, rfl, Shared.step_drop.mpr ⟨holds, ?_⟩⟩
    rw [Held.letGo, unsettled]
    rfl
  · intro other there
    exact shows.unsettled other (List.mem_filter.mp there).1
  · simp [Access.log, Access.operation?, unsettled]

theorem leadsTo_releases (ended : List Claim) :
    LeadsTo ⟨r, ended ++ claims⟩ (ended.map fun claim => (claim.entry, .release))
      ⟨ended.foldl Registry.release r, claims⟩ := by
  induction ended generalizing r with
  | nil => exact .refl _
  | cons claim ended ih => exact (leadsTo_release claim).trans ih

theorem claims_on (shown : ∃ s : Shared α, s.Sound ∧ c.Shows s) (entry : EntryId) :
    (c.claims.filter (·.entry == entry)).length = if (c.registry.slot entry).isFetching then 1 else 0 := by
  obtain ⟨s, sound, shows⟩ := shown
  rw [← shows.registry, ← sound.single entry, Shared.live, ← (shows.claims.filter _).length_eq, List.filter_map,
    List.length_map]
  congr 1
  refine List.filter_congr ?_
  intro h holds
  simp [Held.isLiveOn, shows.unsettled h holds]

end Custody

end ChannelFeed.Cache
