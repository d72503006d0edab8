import ChannelFeed.Proofs.Sharing.Keys
import ChannelFeed.Proofs.Sharing.SingleFlight
import ChannelFeed.Proofs.Sharing.Versions

/-!
# Owners

A slot can be got at by its key, by a claim on it, and by a reference, which whoever looked its key up has in hands:
a caller between two accesses, a call or a wait that goes on, a host that keeps it. Whoever asks for the right to fetch
or marks the slot does it by a reference. So a slot that has no owner any more never gets one again, and stays as it
is.
-/
namespace ChannelFeed.Cache

variable {α : Type}

/-- The slot that an access must be given a reference to. -/
def Access.wants? : Access α → Option EntryId
  | .claim h => some h.claim.entry
  | .refuse entry | .mark entry => some entry
  | _ => none

/-- What one of many threads does. -/
inductive Deed (α : Type) where
  /-- Makes an access. If it makes or finds the slot of a key, a reference to it is the result. -/
  | access (a : Access α)
  /-- Looks a key up. A reference to its slot is the result, if there is one. -/
  | lookUp (cache : Nat) (key : String)
  | duplicate (entry : EntryId)
  | giveUp (entry : EntryId)

/-- What all threads share, and the references that are in their hands. -/
structure Owned (α : Type) where
  shared : Shared α
  references : List EntryId

namespace Owned

def start (caches : Nat) : Owned α := ⟨.start caches, []⟩

/-- Whether anyone is left who could publish a version of the slot: a cache, a claim or a reference. -/
def isOwned (o : Owned α) (entry : EntryId) : Bool :=
  o.shared.registry.isListed entry || o.shared.held.any (·.claim.entry == entry) || o.references.contains entry

/-- The reference that an access results in. -/
def gained (o : Owned α) : Access α → List EntryId
  | .add cache key => [(o.shared.registry.getOrAdd cache key).1]
  | _ => []

/-- Does one thing. There is no result if nobody can do it. -/
def step (o : Owned α) : Deed α → Option (Owned α)
  | .access a =>
    if a.wants?.all (o.references.contains ·) then
      (o.shared.step a).map fun s => ⟨s, o.references ++ o.gained a⟩
    else none
  | .lookUp cache key =>
    some { o with references := o.references ++ (o.shared.registry.get? cache key).toList }
  | .duplicate entry =>
    if entry ∈ o.references then some { o with references := entry :: o.references } else none
  | .giveUp entry =>
    if entry ∈ o.references then some { o with references := o.references.erase entry } else none

/-- Does what was done in a run, the newest of which comes first in the list. -/
def run (o : Owned α) : List (Deed α) → Option (Owned α)
  | [] => some o
  | d :: past => (o.run past).bind (·.step d)

variable {o p : Owned α} {d : Deed α} {past : List (Deed α)}

theorem run_cons : o.run (d :: past) = some p ↔ ∃ m, o.run past = some m ∧ m.step d = some p := by
  simp [run, Option.bind_eq_some_iff]

theorem step_access {a : Access α} (done : o.step (.access a) = some p) :
    (∀ entry, a.wants? = some entry → entry ∈ o.references) ∧ o.shared.step a = some p.shared ∧
      p.references = o.references ++ o.gained a := by
  simp only [step] at done
  split at done
  · next warranted =>
    obtain ⟨s, made, rfl⟩ := Option.map_eq_some_iff.mp done
    refine ⟨?_, made, rfl⟩
    intro entry wants
    rw [wants] at warranted
    exact List.contains_iff_mem.mp warranted
  · cases done

/-- What a deed makes of what is shared is what an access makes of it, or nothing. -/
theorem step_cases (done : o.step d = some p) :
    (∃ a, d = .access a ∧ (∀ entry, a.wants? = some entry → entry ∈ o.references) ∧
      o.shared.step a = some p.shared ∧ p.references = o.references ++ o.gained a) ∨
    (p.shared = o.shared ∧ ∀ entry ∈ p.references, entry ∈ o.references ∨ o.shared.registry.isListed entry = true) := by
  cases d with
  | access a => exact .inl ⟨a, rfl, step_access done⟩
  | lookUp cache key =>
    cases done
    refine .inr ⟨rfl, ?_⟩
    intro entry there
    rcases List.mem_append.mp there with old | new
    · exact .inl old
    · exact .inr (Registry.isListed_of_get? (Option.mem_toList.mp new))
  | duplicate other =>
    simp only [step] at done
    split at done
    · next there =>
      cases done
      refine .inr ⟨rfl, ?_⟩
      intro entry within
      rcases List.mem_cons.mp within with rfl | old
      · exact .inl there
      · exact .inl old
    · cases done
  | giveUp other =>
    simp only [step] at done
    split at done
    · cases done
      refine .inr ⟨rfl, ?_⟩
      intro entry within
      exact .inl (List.mem_of_mem_erase within)
    · cases done

theorem sound_step (sound : o.shared.Sound) (done : o.step d = some p) : p.shared.Sound := by
  rcases step_cases done with ⟨a, -, -, stepped, -⟩ | ⟨same, -⟩
  · exact sound.step stepped
  · exact same ▸ sound

theorem precedes_step (sound : o.shared.Sound) (done : o.step d = some p) (entry : EntryId) :
    (o.shared.registry.cell entry).Precedes (p.shared.registry.cell entry) := by
  rcases step_cases done with ⟨a, -, -, stepped, -⟩ | ⟨same, -⟩
  · exact Shared.precedes_step sound.inside stepped entry
  · rw [same]
    exact .refl _

theorem length_step (done : o.step d = some p) :
    o.shared.registry.cells.length ≤ p.shared.registry.cells.length := by
  rcases step_cases done with ⟨a, -, -, stepped, -⟩ | ⟨same, -⟩
  · exact Shared.length_step stepped
  · exact Nat.le_of_eq (congrArg (·.registry.cells.length) same.symm)

theorem sound_run {caches : Nat} (ran : (start caches).run past = some o) : o.shared.Sound := by
  induction past generalizing o with
  | nil =>
    cases ran
    exact Shared.sound_start caches
  | cons d past ih =>
    obtain ⟨m, earlier, done⟩ := run_cons.mp ran
    exact sound_step (ih earlier) done

theorem isOwned_of_mem {entry : EntryId} (there : entry ∈ o.references) : o.isOwned entry = true := by
  simp [isOwned, there]

theorem isOwned_eq_false {entry : EntryId} :
    o.isOwned entry = false ↔ o.shared.registry.isListed entry = false ∧
      (∀ h ∈ o.shared.held, h.claim.entry ≠ entry) ∧ entry ∉ o.references := by
  simp [isOwned, and_assoc]

/-- An access by which a slot could change needs someone who owns it. -/
theorem not_concerns_of_unowned {a : Access α} {s : Shared α} {entry : EntryId} (gone : o.isOwned entry = false)
    (warranted : ∀ entry, a.wants? = some entry → entry ∈ o.references) (made : o.shared.step a = some s) :
    a.concerns entry = false := by
  obtain ⟨-, unclaimed, unreferred⟩ := isOwned_eq_false.mp gone
  cases a with
  | claim h =>
    refine beq_eq_false_iff_ne.mpr ?_
    rintro rfl
    exact unreferred (warranted _ rfl)
  | mark other =>
    refine beq_eq_false_iff_ne.mpr ?_
    rintro rfl
    exact unreferred (warranted _ rfl)
  | settle h state => exact beq_eq_false_iff_ne.mpr (unclaimed h (Shared.step_settle.mp made).1.1)
  | drop h =>
    have other := beq_eq_false_iff_ne.mpr (unclaimed h (Shared.step_drop.mp made).1)
    simp [Access.concerns, Held.isLiveOn, other]
  | _ => rfl

theorem isListed_of_step {a : Access α} {s t : Shared α} {entry : EntryId} (made : entry < s.registry.cells.length)
    (stepped : s.step a = some t) (listed : t.registry.isListed entry = true) : s.registry.isListed entry = true := by
  cases a with
  | read => cases stepped; exact listed
  | add cache key => cases stepped; exact Registry.isListed_of_getOrAdd made listed
  | remove cache key => cases stepped; exact Registry.isListed_of_remove listed
  | clear cache => cases stepped; exact Registry.isListed_of_clear listed
  | claim h =>
    obtain ⟨-, -, -, rfl⟩ := Shared.step_claim.mp stepped
    exact listed
  | refuse other =>
    rw [(Shared.step_refuse.mp stepped).2] at listed
    exact listed
  | mark other =>
    rw [(Shared.step_mark.mp stepped).2] at listed
    exact listed
  | settle h state =>
    rw [(Shared.step_settle.mp stepped).2] at listed
    exact listed
  | drop h =>
    rw [(Shared.step_drop.mp stepped).2] at listed
    unfold Held.letGo at listed
    split at listed <;> exact listed

/-- A slot that has no owner has none later, and stays as it is. -/
theorem unowned_step (sound : o.shared.Sound) {entry : EntryId} (made : entry < o.shared.registry.cells.length)
    (done : o.step d = some p) (gone : o.isOwned entry = false) :
    p.isOwned entry = false ∧ p.shared.registry.cell entry = o.shared.registry.cell entry := by
  obtain ⟨unlisted, unclaimed, unreferred⟩ := isOwned_eq_false.mp gone
  rcases step_cases done with ⟨a, rfl, warranted, stepped, references⟩ | ⟨same, references⟩
  · have off := not_concerns_of_unowned gone warranted stepped
    refine ⟨isOwned_eq_false.mpr ⟨?_, ?_, ?_⟩, ?_⟩
    · refine Bool.eq_false_iff.mpr ?_
      intro listed
      rw [isListed_of_step made stepped listed] at unlisted
      cases unlisted
    · intro h holds
      rcases Shared.held_step stepped holds with ⟨old, held, -, same⟩ | rfl
      · rw [same]
        exact unclaimed old held
      · exact beq_eq_false_iff_ne.mp off
    · rw [references, List.mem_append]
      rintro (old | new)
      · exact unreferred old
      · cases a with
        | add cache key =>
          rcases o.shared.registry.getOrAdd_cases cache key with found | new'
          · rw [← List.mem_singleton.mp new, unlisted] at found
            cases found
          · rw [← List.mem_singleton.mp new] at new'
            exact absurd new' (Nat.ne_of_lt made)
        | _ => cases new
    · exact Shared.cell_of_not_concerns sound.inside stepped off
  · refine ⟨isOwned_eq_false.mpr ⟨same ▸ unlisted, same ▸ unclaimed, ?_⟩, by rw [same]⟩
    intro there
    rcases references entry there with old | listed
    · exact unreferred old
    · rw [listed] at unlisted
      cases unlisted

end Owned

end ChannelFeed.Cache
