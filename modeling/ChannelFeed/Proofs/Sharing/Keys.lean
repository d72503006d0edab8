import ChannelFeed.Proofs.Sharing.Access

/-!
# Keys

A key leads to a slot that was made, whatever is done to slots and keys. So every slot that is found by its key can
be claimed and marked.
-/
namespace ChannelFeed.Cache

variable {α : Type}

/-- What stands in a list after one of its members was changed stood there before, or is the changed one. -/
theorem mem_modify {β : Type} {l : List β} {i : Nat} {f : β → β} {x : β} (there : x ∈ l.modify i f) :
    x ∈ l ∨ ∃ old ∈ l, f old = x := by
  obtain ⟨place, now⟩ := List.getElem?_of_mem there
  rw [List.getElem?_modify, Option.map_eq_map, Option.map_eq_some_iff] at now
  obtain ⟨old, was, rfl⟩ := now
  have before := List.mem_of_getElem? was
  split
  · exact .inr ⟨old, before, rfl⟩
  · exact .inl before

namespace Registry

section
variable {r : Registry α} {cache : Nat} {key : String} {entry : EntryId}

theorem isListed_iff : r.isListed entry = true ↔ ∃ d ∈ r.caches, entry ∈ Names.things d := by
  simp [isListed, Directory.leadsTo]

theorem isListed_of_get? (found : r.get? cache key = some entry) : r.isListed entry = true := by
  unfold get? directory at found
  cases there : r.caches[cache]? with
  | none =>
    rw [there] at found
    cases found
  | some d =>
    rw [there] at found
    exact isListed_iff.mpr ⟨d, List.mem_of_getElem? there, Names.mem_things_of_get? found⟩

/-- No key leads to a slot to which none led before if the changed cache adds none. -/
private theorem isListed_of_modify {cells : List (Cell α)} {f : Directory → Directory}
    (listed : (⟨cells, r.caches.modify cache f⟩ : Registry α).isListed entry = true)
    (none : ∀ d, entry ∈ Names.things (f d) → entry ∈ Names.things d) : r.isListed entry = true := by
  obtain ⟨d, there, leads⟩ := isListed_iff.mp listed
  rcases mem_modify there with before | ⟨old, before, rfl⟩
  · exact isListed_iff.mpr ⟨d, before, leads⟩
  · exact isListed_iff.mpr ⟨old, before, none old leads⟩

theorem isListed_of_getOrAdd (made : entry < r.cells.length)
    (listed : (r.getOrAdd cache key).2.isListed entry = true) : r.isListed entry = true := by
  unfold getOrAdd at listed
  split at listed
  · exact listed
  · refine isListed_of_modify listed ?_
    intro d leads
    rw [Names.things, List.map_append, List.mem_append] at leads
    rcases leads with old | new
    · exact old
    · rw [List.mem_singleton.mp new] at made
      exact absurd made (Nat.lt_irrefl _)

theorem isListed_of_remove (listed : (r.remove cache key).2.isListed entry = true) : r.isListed entry = true := by
  exact isListed_of_modify listed fun d leads => Names.mem_things_of_erase leads

theorem isListed_of_clear (listed : (r.clear cache).isListed entry = true) : r.isListed entry = true := by
  refine isListed_of_modify listed ?_
  intro d leads
  cases leads

theorem getOrAdd_cases (r : Registry α) (cache : Nat) (key : String) :
    r.isListed (r.getOrAdd cache key).1 = true ∨ (r.getOrAdd cache key).1 = r.cells.length := by
  unfold getOrAdd
  split
  · next entry found => exact .inl (isListed_of_get? found)
  · exact .inr rfl

end

/-- Every key leads to a slot that was made. -/
def Closed (r : Registry α) : Prop := ∀ d ∈ r.caches, ∀ entry ∈ Names.things d, entry < r.cells.length

theorem closed_empty (caches : Nat) : (empty caches : Registry α).Closed := by
  intro d there entry leads
  rw [(List.mem_replicate.mp there).2] at leads
  cases leads

theorem entry_eq_getOrAdd (r : Registry α) (cache : Nat) (key : String) :
    r.entry cache key = r.getOrAdd cache key := by
  unfold entry
  split
  · next found => rw [getOrAdd, found]
  · rfl

namespace Closed

variable {r : Registry α}

theorem get?_lt (closed : r.Closed) {cache : Nat} {key : String} {entry : EntryId}
    (found : r.get? cache key = some entry) : entry < r.cells.length := by
  obtain ⟨d, there, leads⟩ := isListed_iff.mp (isListed_of_get? found)
  exact closed d there entry leads

theorem getOrAdd_lt (closed : r.Closed) (cache : Nat) (key : String) :
    (r.getOrAdd cache key).1 < (r.getOrAdd cache key).2.cells.length := by
  unfold Registry.getOrAdd
  split
  · next entry found => exact closed.get?_lt found
  · simp

theorem update (closed : r.Closed) (entry : EntryId) (f : Slot α → Slot α) : (r.update entry f).Closed := by
  intro d there other leads
  rw [length_update]
  exact closed d there other leads

/-- A change of one cache keeps to the slots that were made if the changed cache does. -/
private theorem of_modify (closed : r.Closed) {cells : List (Cell α)} {cache : Nat} {f : Directory → Directory}
    (longer : r.cells.length ≤ cells.length)
    (changed : ∀ d ∈ r.caches, ∀ entry ∈ Names.things (f d), entry < cells.length) :
    Closed ⟨cells, r.caches.modify cache f⟩ := by
  intro d there entry leads
  rcases mem_modify there with before | ⟨old, before, rfl⟩
  · exact Nat.lt_of_lt_of_le (closed d before entry leads) longer
  · exact changed old before entry leads

theorem getOrAdd (closed : r.Closed) (cache : Nat) (key : String) : (r.getOrAdd cache key).2.Closed := by
  unfold Registry.getOrAdd
  split
  · exact closed
  · refine closed.of_modify (by simp) ?_
    intro d there entry leads
    rw [List.length_append, List.length_singleton]
    rw [Names.things, List.map_append, List.mem_append] at leads
    rcases leads with old | new
    · exact Nat.lt_succ_of_lt (closed d there entry old)
    · rw [List.mem_singleton.mp new]
      exact Nat.lt_succ_self _

theorem remove (closed : r.Closed) (cache : Nat) (key : String) : (r.remove cache key).2.Closed := by
  refine closed.of_modify (Nat.le_refl _) ?_
  intro d there entry leads
  exact closed d there entry (Names.mem_things_of_erase leads)

theorem clear (closed : r.Closed) (cache : Nat) : (r.clear cache).Closed := by
  refine closed.of_modify (Nat.le_refl _) ?_
  intro d there entry leads
  cases leads

end Closed

end Registry

end ChannelFeed.Cache
