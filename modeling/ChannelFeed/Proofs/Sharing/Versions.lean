import ChannelFeed.Cache.Receiver
import ChannelFeed.Proofs.Sharing.Access

/-!
# Versions

An access publishes a version of the slot that it concerns, also if it leaves it as it was, and none of any other
slot. So whoever has seen the version of now has seen the slot of now, and need not look again.
-/
namespace ChannelFeed.Cache

variable {α : Type}

/-- What may become of a published slot: it stays as it is, or there is a new version of it. -/
structure Cell.Precedes (c d : Cell α) : Prop where
  version : c.version ≤ d.version
  generation : c.slot.generation ≤ d.slot.generation
  same : d.version = c.version → d = c

namespace Cell.Precedes

variable {c d e : Cell α}

theorem refl (c : Cell α) : c.Precedes c := ⟨Nat.le_refl _, Nat.le_refl _, fun _ => rfl⟩

theorem trans (first : c.Precedes d) (second : d.Precedes e) : c.Precedes e where
  version := Nat.le_trans first.version second.version
  generation := Nat.le_trans first.generation second.generation
  same := by
    intro unchanged
    have between : e.version = d.version := Nat.le_antisymm (unchanged ▸ first.version) second.version
    have before : d.version = c.version := between.symm.trans unchanged
    exact (second.same between).trans (first.same before)

theorem update (c : Cell α) {f : Slot α → Slot α} (grows : c.slot.generation ≤ (f c.slot).generation) :
    c.Precedes (c.update f) where
  version := Nat.le_succ _
  generation := grows
  same := by
    intro unchanged
    exact absurd unchanged (Nat.succ_ne_self _)

end Cell.Precedes

namespace Registry

theorem cell_update_of_ne (r : Registry α) {entry other : EntryId} (f : Slot α → Slot α) (apart : other ≠ entry) :
    (r.update entry f).cell other = r.cell other := by
  simp [update, cell, Ne.symm apart]

theorem cell_update_self (r : Registry α) {entry : EntryId} (f : Slot α → Slot α) (made : entry < r.cells.length) :
    (r.update entry f).cell entry = (r.cell entry).update f := by
  simp [update, cell, made]

theorem update_of_le (r : Registry α) {entry : EntryId} (f : Slot α → Slot α) (missing : r.cells.length ≤ entry) :
    r.update entry f = r := by
  rw [update, List.modify_eq_self missing]

/-- A slot that is changed was made and is published anew; all others stay as they are. -/
theorem cell_update_cases (r : Registry α) (entry other : EntryId) (f : Slot α → Slot α) :
    (r.update entry f).cell other = r.cell other ∨
      other = entry ∧ (r.update entry f).cell other = (r.cell other).update f := by
  by_cases same : other = entry
  · subst same
    rcases Nat.lt_or_ge other r.cells.length with made | missing
    · exact .inr ⟨rfl, cell_update_self r f made⟩
    · rw [update_of_le r f missing]
      exact .inl rfl
  · exact .inl (cell_update_of_ne r f same)

theorem precedes_update (r : Registry α) (entry other : EntryId) {f : Slot α → Slot α}
    (grows : (r.slot entry).generation ≤ (f (r.slot entry)).generation) :
    (r.cell other).Precedes ((r.update entry f).cell other) := by
  rcases r.cell_update_cases entry other f with same | ⟨rfl, changed⟩
  · rw [same]
    exact .refl _
  · rw [changed]
    exact .update _ grows

end Registry

namespace Shared

variable {s t : Shared α} {a : Access α}

/-- An access publishes one version of the slot that it concerns and no other: a refused claim publishes nothing, nor
does a claim that is let go after it has settled its slot. -/
theorem version_step (inside : ∀ h ∈ s.held, h.claim.entry < s.registry.cells.length)
    (made : s.step a = some t) (entry : EntryId) :
    (t.registry.cell entry).version = (s.registry.cell entry).version + if a.concerns entry then 1 else 0 := by
  have updated (r : Registry α) (other : EntryId) (f : Slot α → Slot α) (there : other < r.cells.length) :
      ((r.update other f).cell entry).version = (r.cell entry).version + if other == entry then 1 else 0 := by
    by_cases same : entry = other
    · subst same
      rw [r.cell_update_self f there, if_pos (beq_self_eq_true entry)]
      rfl
    · rw [r.cell_update_of_ne f same, if_neg (by simpa using Ne.symm same)]
      rfl
  cases a with
  | read => cases made; rfl
  | add cache key =>
    cases made
    exact congrArg Cell.version (s.registry.cell_getOrAdd cache key entry)
  | remove cache key => cases made; rfl
  | clear cache => cases made; rfl
  | claim h =>
    obtain ⟨there, -, -, rfl⟩ := step_claim.mp made
    exact updated s.registry h.claim.entry Slot.claimed there
  | refuse other => rw [(step_refuse.mp made).2]; rfl
  | mark other =>
    obtain ⟨there, rfl⟩ := step_mark.mp made
    exact updated s.registry other Slot.markedStale there
  | settle h state =>
    obtain ⟨⟨holds, -⟩, rfl⟩ := step_settle.mp made
    exact updated s.registry h.claim.entry (·.settled h.claim.generation state) (inside h holds)
  | drop h =>
    obtain ⟨holds, rfl⟩ := step_drop.mp made
    cases settled : h.isSettled with
    | true => simp [Held.letGo, Access.concerns, Held.isLiveOn, settled]
    | false =>
      have released := updated s.registry h.claim.entry Slot.released (inside h holds)
      simpa [Held.letGo, Access.concerns, Held.isLiveOn, settled, Registry.release] using released

/-- An access that does not concern a slot publishes nothing of it. -/
theorem cell_of_not_concerns (inside : ∀ h ∈ s.held, h.claim.entry < s.registry.cells.length)
    (made : s.step a = some t) {entry : EntryId} (off : a.concerns entry = false) :
    t.registry.cell entry = s.registry.cell entry := by
  have slot := (same_of_not_concerns inside made off).1
  have version := version_step inside made entry
  rw [off] at version
  calc t.registry.cell entry
    _ = ⟨t.registry.slot entry, (t.registry.cell entry).version⟩ := rfl
    _ = ⟨s.registry.slot entry, (s.registry.cell entry).version⟩ := by rw [slot, version]; rfl

theorem generation_le_effect (a : Access α) (entry : EntryId) (slot : Slot α) :
    slot.generation ≤ (a.effect entry slot).generation := by
  cases a with
  | mark other =>
    rw [Access.effect]
    split
    · exact Nat.le_succ _
    · exact Nat.le_refl _
  | claim h | settle h state | drop h =>
    rw [Access.effect]
    split <;> exact Nat.le_refl _
  | _ => exact Nat.le_refl _

theorem precedes_step (inside : ∀ h ∈ s.held, h.claim.entry < s.registry.cells.length)
    (made : s.step a = some t) (entry : EntryId) : (s.registry.cell entry).Precedes (t.registry.cell entry) := by
  have version := version_step inside made entry
  have generation : (s.registry.slot entry).generation ≤ (t.registry.slot entry).generation := by
    rw [slot_step inside made]
    exact generation_le_effect a entry _
  refine ⟨by omega, generation, ?_⟩
  intro unchanged
  cases on : a.concerns entry with
  | true =>
    rw [on, unchanged] at version
    exact absurd version.symm (Nat.succ_ne_self _)
  | false => exact cell_of_not_concerns inside made on

end Shared

end ChannelFeed.Cache
