import ChannelFeed.Proofs.Sharing.Access

/-!
# Single flight

However many threads share a slot, it is marked as being fetched exactly while there is one claim on it that has
not settled it, and there are never two. The mark is therefore neither lost while a fetch is on its way nor left
behind by one that has ended, whatever its end was.
-/
namespace ChannelFeed.Cache

variable {α : Type}

/-- What holds at every point of a run: claims are on slots that were made, and a slot is marked as being fetched
if there is a claim on it that has not settled it. Then there is only one. -/
structure Shared.Sound (s : Shared α) : Prop where
  inside : ∀ h ∈ s.held, h.claim.entry < s.registry.cells.length
  numbered : ∀ h ∈ s.held, h.number < s.taken
  single : ∀ entry, (s.live entry).length = if (s.registry.slot entry).isFetching then 1 else 0

namespace Shared

variable {s t : Shared α} {a : Access α}

theorem sound_start (caches : Nat) : (start caches : Shared α).Sound where
  inside := by
    intro h holds
    cases holds
  numbered := by
    intro h holds
    cases holds
  single := by
    intro entry
    rfl

namespace Sound

/-- A claim that is live on a slot is the only one, and the slot is marked as being fetched. -/
theorem alone (sound : s.Sound) {entry : EntryId} {h : Held} (live : h ∈ s.live entry) :
    s.live entry = [h] ∧ (s.registry.slot entry).isFetching = true := by
  have counted := sound.single entry
  cases fetching : (s.registry.slot entry).isFetching with
  | true =>
    rw [fetching, if_pos rfl] at counted
    obtain ⟨only, same⟩ := List.length_eq_one_iff.mp counted
    rw [same, List.mem_singleton] at live
    exact ⟨by rw [same, live], rfl⟩
  | false =>
    rw [fetching, if_neg Bool.false_ne_true] at counted
    rw [List.length_eq_zero_iff.mp counted] at live
    cases live

theorem none_live (sound : s.Sound) {entry : EntryId} (idle : (s.registry.slot entry).isFetching = false) :
    s.live entry = [] := by
  have counted := sound.single entry
  rw [idle, if_neg Bool.false_ne_true] at counted
  exact List.length_eq_zero_iff.mp counted

theorem some_live (sound : s.Sound) {entry : EntryId} (busy : (s.registry.slot entry).isFetching = true) :
    ∃ h, s.live entry = [h] := by
  have counted := sound.single entry
  rw [busy, if_pos rfl] at counted
  exact List.length_eq_one_iff.mp counted

theorem isFetching_iff (sound : s.Sound) {entry : EntryId} :
    (s.registry.slot entry).isFetching = true ↔ s.live entry ≠ [] := by
  constructor
  · intro busy none
    obtain ⟨h, only⟩ := sound.some_live busy
    rw [none] at only
    cases only
  · intro some
    obtain ⟨h, live⟩ := List.exists_mem_of_ne_nil _ some
    exact (sound.alone live).2

private theorem inside_step (sound : s.Sound) (made : s.step a = some t) :
    ∀ h ∈ t.held, h.claim.entry < t.registry.cells.length := by
  have longer := length_step made
  intro h holds
  rcases held_step made holds with ⟨old, held, -, same⟩ | rfl
  · rw [same]
    exact Nat.lt_of_lt_of_le (sound.inside old held) longer
  · exact Nat.lt_of_lt_of_le (step_claim.mp made).1 longer

private theorem numbered_step (sound : s.Sound) (made : s.step a = some t) : ∀ h ∈ t.held, h.number < t.taken := by
  intro h holds
  rcases held_step made holds with ⟨old, held, same, -⟩ | rfl
  · rw [same]
    exact Nat.lt_of_lt_of_le (sound.numbered old held) (taken_step made)
  · obtain ⟨-, -, new, rfl⟩ := step_claim.mp made
    rw [new]
    exact Nat.lt_succ_self _

private theorem single_step (sound : s.Sound) (made : s.step a = some t) (entry : EntryId) :
    (t.live entry).length = if (t.registry.slot entry).isFetching then 1 else 0 := by
  cases on : a.concerns entry with
  | false =>
    obtain ⟨slot, live⟩ := same_of_not_concerns sound.inside made on
    rw [slot, live]
    exact sound.single entry
  | true =>
    rw [live_step made, slot_step sound.inside made]
    cases a with
    | claim h =>
      obtain rfl : h.claim.entry = entry := beq_iff_eq.mp on
      have idle := Slot.isFetching_of_canClaim (step_claim.mp made).2.1
      simp [Access.liveAfter, Access.effect, Slot.claimed, sound.none_live idle]
    | mark other =>
      obtain rfl : other = entry := beq_iff_eq.mp on
      simpa [Access.liveAfter, Access.effect, Slot.markedStale] using sound.single other
    | settle h state =>
      obtain rfl : h.claim.entry = entry := beq_iff_eq.mp on
      obtain ⟨⟨holds, unsettled⟩, -⟩ := step_settle.mp made
      have only := (sound.alone (mem_live.mpr ⟨holds, unsettled, rfl⟩)).1
      simp [Access.liveAfter, Access.effect, Slot.settled, only]
    | drop h =>
      have only := (sound.alone (List.mem_filter.mpr ⟨(step_drop.mp made).1, on⟩)).1
      have on : h.isLiveOn entry = true := on
      simp [Access.liveAfter, Access.effect, on, Slot.released, only]
    | _ => cases on

theorem step (sound : s.Sound) (made : s.step a = some t) : t.Sound where
  inside := inside_step sound made
  numbered := numbered_step sound made
  single := single_step sound made

theorem run (sound : s.Sound) {past : List (Access α)} (ran : s.run past = some t) : t.Sound := by
  induction past generalizing t with
  | nil => cases ran; exact sound
  | cons a past ih =>
    obtain ⟨m, earlier, made⟩ := run_cons.mp ran
    exact (ih earlier).step made

end Sound

end Shared

/-- Whether the access is the end of the claim: it settles its slot with it or lets it go. -/
def Access.ends (h : Held) : Access α → Bool
  | .settle other _ | .drop other => other == h
  | _ => false

namespace Shared

variable {s t : Shared α} {a : Access α} {later : List (Access α)} {entry : EntryId} {h : Held}

theorem live_step_of_not_ends (made : s.step a = some t) (live : h ∈ s.live entry) (kept : a.ends h = false) :
    h ∈ t.live entry := by
  rw [live_step made]
  cases a with
  | claim other =>
    simp only [Access.liveAfter]
    split
    · exact List.mem_append_left _ live
    · exact live
  | settle other state =>
    have different : h ≠ other := (beq_eq_false_iff_ne.mp kept).symm
    exact List.mem_filter.mpr ⟨live, decide_eq_true different⟩
  | drop other =>
    have different : h ≠ other := (beq_eq_false_iff_ne.mp kept).symm
    exact List.mem_filter.mpr ⟨live, decide_eq_true different⟩
  | _ => exact live

/-- A claim that was taken and is no longer live was settled or let go since. -/
theorem ended_of_taken (ran : s.run later = some t) (taken : .claim h ∈ later) (on : h.claim.entry = entry)
    (gone : h ∉ t.live entry) : ∃ a ∈ later, a.ends h = true := by
  induction later generalizing t with
  | nil => cases taken
  | cons a later ih =>
    obtain ⟨m, earlier, made⟩ := run_cons.mp ran
    cases ending : a.ends h with
    | true => exact ⟨a, List.mem_cons_self, ending⟩
    | false =>
      have before : .claim h ∈ later := by
        rcases List.mem_cons.mp taken with rfl | before
        · obtain ⟨-, -, new, rfl⟩ := step_claim.mp made
          refine absurd (mem_live.mpr ⟨List.mem_append_right _ (List.mem_singleton.mpr rfl), ?_, on⟩) gone
          rw [new]
        · exact before
      obtain ⟨b, there, ends⟩ := ih earlier before fun live => gone (live_step_of_not_ends made live ending)
      exact ⟨b, List.mem_cons_of_mem _ there, ends⟩

/-- A slot that can be claimed can be until it is: without a claim there is nothing to settle it. -/
theorem canClaim_step (sound : s.Sound) (made : s.step a = some t) (can : (s.registry.slot entry).canClaim = true) :
    (t.registry.slot entry).canClaim = true ∨ ∃ h, a = .claim h ∧ h.claim.entry = entry := by
  have idle := Slot.isFetching_of_canClaim can
  have free := sound.none_live idle
  cases on : a.concerns entry with
  | false =>
    rw [(same_of_not_concerns sound.inside made on).1]
    exact .inl can
  | true =>
    cases a with
    | claim h => exact .inr ⟨h, rfl, beq_iff_eq.mp on⟩
    | mark other =>
      obtain rfl : other = entry := beq_iff_eq.mp on
      rw [slot_step sound.inside made, Access.effect, if_pos rfl]
      simp [Slot.canClaim, Slot.markedStale, idle]
    | settle h state =>
      obtain ⟨⟨holds, unsettled⟩, -⟩ := step_settle.mp made
      have live : h ∈ s.live entry := mem_live.mpr ⟨holds, unsettled, beq_iff_eq.mp on⟩
      rw [free] at live
      cases live
    | drop h =>
      have live : h ∈ s.live entry := List.mem_filter.mpr ⟨(step_drop.mp made).1, on⟩
      rw [free] at live
      cases live
    | _ => cases on

theorem claimed_of_canClaim (sound : s.Sound) (ran : s.run later = some t)
    (can : (s.registry.slot entry).canClaim = true) (cannot : (t.registry.slot entry).canClaim = false) :
    ∃ h, .claim h ∈ later ∧ h.claim.entry = entry := by
  induction later generalizing t with
  | nil =>
    cases ran
    rw [can] at cannot
    cases cannot
  | cons a later ih =>
    obtain ⟨m, earlier, made⟩ := run_cons.mp ran
    cases still : (m.registry.slot entry).canClaim with
    | false =>
      obtain ⟨h, taken, on⟩ := ih earlier still
      exact ⟨h, List.mem_cons_of_mem _ taken, on⟩
    | true =>
      rcases canClaim_step (sound.run earlier) made still with can | ⟨h, rfl, on⟩
      · rw [can] at cannot
        cases cannot
      · exact ⟨h, List.mem_cons_self, on⟩

/-- The mark of a claim stays until its own end. To settle or to let go another one does not take it away. -/
theorem isFetching_step (sound : s.Sound) (made : s.step a = some t) (live : h ∈ s.live entry)
    (other : a.ends h = false) : h ∈ t.live entry ∧ (t.registry.slot entry).isFetching = true := by
  have still := live_step_of_not_ends made live other
  exact ⟨still, ((sound.step made).alone still).2⟩

end Shared

/-- A slot is marked while a fetch is on its way, which then settles it. The next fetch begins before the claim of the
first is let go, and is given up. -/
def markedInFlight (value : α) : List (Access α) :=
  [.drop ⟨1, ⟨0, 1⟩, false⟩, .drop ⟨0, ⟨0, 0⟩, true⟩, .claim ⟨1, ⟨0, 1⟩, false⟩,
    .settle ⟨0, ⟨0, 0⟩, false⟩ (.ready value), .mark 0, .claim ⟨0, ⟨0, 0⟩, false⟩, .add 0 "channels"]

end ChannelFeed.Cache
