import ChannelFeed.Proofs.Sharing.Owners

/-!
# Waiting

Whoever waits looks at the slot only if there is a version that he has not seen. He misses nothing by it: the version
that he has seen showed a fetch on its way, and the end of that fetch publishes another one.
-/
namespace ChannelFeed.Cache

variable {α : Type}

theorem Receiver.poll_ne_closed (rx : Receiver) (r : Registry α) : (rx.poll r true).1 ≠ .closed := by
  unfold poll
  split <;> exact News.noConfusion

namespace Wait

variable {w rest : Wait} {r r' : Registry α}

/-- What whoever waits knows of the slot: if nothing was published since the last look, a fetch is on its way. -/
structure Attentive (w : Wait) (r : Registry α) : Prop where
  entry : ∀ rx, w.receiver = some rx → rx.entry = w.entry
  seen : ∀ rx, w.receiver = some rx → rx.seen ≤ (r.cell w.entry).version
  isFetching : ∀ rx, w.receiver = some rx → rx.seen = (r.cell w.entry).version → (r.slot w.entry).isFetching = true

namespace Attentive

theorem start (r : Registry α) (entry : EntryId) : (Wait.start entry).Attentive r where
  entry := by
    intro rx none
    cases none
  seen := by
    intro rx none
    cases none
  isFetching := by
    intro rx none
    cases none

theorem subscribe {entry : EntryId} (busy : (r.slot entry).isFetching = true) :
    (⟨entry, some (.subscribe r entry)⟩ : Wait).Attentive r where
  entry := by
    rintro rx ⟨⟩
    rfl
  seen := by
    rintro rx ⟨⟩
    exact Nat.le_refl _
  isFetching := by
    rintro rx ⟨⟩ -
    exact busy

theorem precedes (attentive : w.Attentive r) (later : (r.cell w.entry).Precedes (r'.cell w.entry)) :
    w.Attentive r' where
  entry := attentive.entry
  seen := by
    intro rx has
    exact Nat.le_trans (attentive.seen rx has) later.version
  isFetching := by
    intro rx has seen
    have older := attentive.seen rx has
    have version : (r'.cell w.entry).version = (r.cell w.entry).version :=
      Nat.le_antisymm (seen ▸ older) later.version
    rw [Registry.slot, later.same version]
    exact attentive.isFetching rx has (seen.trans version)

theorem isBehind (attentive : w.Attentive r) (idle : (r.slot w.entry).isFetching = false) :
    w.receiver.all (·.isBehind r) = true := by
  cases has : w.receiver with
  | none => rfl
  | some rx =>
    have unseen : rx.seen ≠ (r.cell w.entry).version := by
      intro seen
      rw [attentive.isFetching rx has seen] at idle
      cases idle
    rw [Option.all_some, Receiver.isBehind, attentive.entry rx has]
    exact bne_iff_ne.mpr (Ne.symm unseen)

/-- A poll ends if no fetch is on its way, however many versions there were since the last one. -/
theorem poll_idle (attentive : w.Attentive r) (idle : (r.slot w.entry).isFetching = false) :
    w.poll r = .done (r.slot w.entry) := by
  rw [poll, if_pos (attentive.isBehind idle), idle]
  rfl

theorem poll_busy (attentive : w.Attentive r) (busy : (r.slot w.entry).isFetching = true) :
    ∃ rest, w.poll r = .pending rest ∧ rest.Attentive r ∧ rest.entry = w.entry ∧ rest.receiver.isSome = true := by
  unfold poll
  rw [if_pos busy]
  split
  · exact ⟨_, rfl, subscribe busy, rfl, rfl⟩
  · next seen =>
    refine ⟨w, rfl, attentive, rfl, ?_⟩
    cases has : w.receiver with
    | none => exact absurd rfl (has ▸ seen)
    | some rx => rfl

end Attentive

/-- How a wait stands with its slot, given whether there is a claim on the slot and whether it has an owner: a poll has
to wait exactly while there is a claim and is otherwise given the slot of now, and the receiver in it has missed
nothing and is not closed. -/
structure Stands (w : Wait) (r : Registry α) (claimed : Prop) (isOwned : Bool) : Prop where
  waits : (∃ rest, w.poll r = .pending rest) ↔ claimed
  ends : ¬claimed → w.poll r = .done (r.slot w.entry)
  wakes : ∀ rx, w.receiver = some rx → rx.isBehind r = false → (r.slot w.entry).isFetching = true
  isOpen : ∀ rx, w.receiver = some rx → (rx.poll r isOwned).1 ≠ .closed

theorem Attentive.stands (attentive : w.Attentive r) {claimed : Prop} {isOwned : Bool}
    (marked : claimed ↔ (r.slot w.entry).isFetching = true) (owned : isOwned = true) :
    w.Stands r claimed isOwned where
  waits := by
    rw [marked]
    constructor
    · rintro ⟨rest, waits⟩
      cases busy : (r.slot w.entry).isFetching with
      | true => rfl
      | false =>
        rw [attentive.poll_idle busy] at waits
        cases waits
    · intro busy
      obtain ⟨rest, waits, -⟩ := attentive.poll_busy busy
      exact ⟨rest, waits⟩
  ends := by
    rw [marked, Bool.not_eq_true]
    exact attentive.poll_idle
  wakes := by
    intro rx has seen
    refine attentive.isFetching rx has ?_
    rw [Receiver.isBehind, attentive.entry rx has, bne_eq_false_iff_eq] at seen
    exact seen.symm
  isOpen := fun rx _ => owned ▸ rx.poll_ne_closed r

end Wait

/-- A wait for a slot that goes on in a run. It was begun by someone with a reference to the slot, who keeps it. It was
polled now and then, and each time had to wait. -/
inductive Awaited (entry : EntryId) : Owned α → Wait → Prop where
  | begun {caches : Nat} {past : List (Deed α)} {o : Owned α} :
    (Owned.start caches).run past = some o → entry ∈ o.references → Awaited entry o (.start entry)
  | goes {o p : Owned α} {d : Deed α} {w : Wait} :
    Awaited entry o w → o.step d = some p → entry ∈ p.references → Awaited entry p w
  | polled {o : Owned α} {w rest : Wait} :
    Awaited entry o w → w.poll o.shared.registry = .pending rest → Awaited entry o rest

namespace Awaited

variable {entry : EntryId} {o p : Owned α} {d : Deed α} {w : Wait}

theorem sound (awaited : Awaited entry o w) : o.shared.Sound := by
  induction awaited with
  | begun ran there => exact Owned.sound_run ran
  | goes before done there ih => exact Owned.sound_step ih done
  | polled before waits ih => exact ih

theorem referred (awaited : Awaited entry o w) : entry ∈ o.references := by
  induction awaited with
  | begun ran there => exact there
  | goes before done there ih => exact there
  | polled before waits ih => exact ih

theorem attentive (awaited : Awaited entry o w) : w.entry = entry ∧ w.Attentive o.shared.registry := by
  induction awaited with
  | begun ran there => exact ⟨rfl, .start _ _⟩
  | goes before done there ih =>
    obtain ⟨rfl, attentive⟩ := ih
    exact ⟨rfl, attentive.precedes (Owned.precedes_step before.sound done _)⟩
  | @polled o w rest before waits ih =>
    obtain ⟨rfl, attentive⟩ := ih
    cases busy : (o.shared.registry.slot w.entry).isFetching with
    | false =>
      rw [attentive.poll_idle busy] at waits
      cases waits
    | true =>
      obtain ⟨rest', waits', still, same, -⟩ := attentive.poll_busy busy
      rw [waits'] at waits
      cases waits
      exact ⟨same, still⟩

theorem stands (awaited : Awaited entry o w) :
    w.entry = entry ∧ w.Stands o.shared.registry (o.shared.live entry ≠ []) (o.isOwned entry) := by
  obtain ⟨rfl, attentive⟩ := awaited.attentive
  refine ⟨rfl, attentive.stands ?_ ?_⟩
  · rw [← awaited.sound.isFetching_iff]
  · exact Owned.isOwned_of_mem awaited.referred

end Awaited

end ChannelFeed.Cache
