import ChannelFeed.Proofs.Sharing.Owners

/-!
# Replaying a slot

A published slot is what the operations on it have made of it, one after the other. What is done to other slots, or to
keys, is not among them, so a slot can be made anew from its own part of a log.
-/
namespace ChannelFeed.Cache

variable {α : Type}

/-- What can be done to one slot. -/
inductive Operation (α : Type) where
  /-- The right to fetch is asked for, and granted if it is to be had. -/
  | claim
  | mark
  | settle (generation : Nat) (state : FetchState α)
  | release

/-- What an operation makes of a published slot. -/
def Operation.on (c : Cell α) : Operation α → Cell α
  | .claim => if c.slot.canClaim then c.update Slot.claimed else c
  | .mark => c.update Slot.markedStale
  | .settle generation state => c.update (·.settled generation state)
  | .release => c.update Slot.released

/-- What operations make of a published slot, the first one coming first. -/
def replay (c : Cell α) (operations : List (Operation α)) : Cell α := operations.foldl Operation.on c

theorem replay_append (c : Cell α) (first rest : List (Operation α)) :
    replay c (first ++ rest) = replay (replay c first) rest := List.foldl_append ..

/-- Operations in the order in which they were carried out, each with the slot that it was applied to. -/
abbrev Log (α : Type) := List (EntryId × Operation α)

namespace Log

def on (log : Log α) (entry : EntryId) : List (Operation α) := (log.filter (·.1 == entry)).map Prod.snd

theorem on_append (first rest : Log α) (entry : EntryId) : on (first ++ rest) entry = first.on entry ++ rest.on entry := by
  simp [on]

theorem on_singleton (operated entry : EntryId) (operation : Operation α) :
    on [(operated, operation)] entry = if operated = entry then [operation] else [] := by
  by_cases same : operated = entry <;> simp [on, same]

theorem on_eq_nil {log : Log α} {entry : EntryId} (others : ∀ pair ∈ log, pair.1 ≠ entry) : log.on entry = [] := by
  have none : log.filter (·.1 == entry) = [] := by
    rw [List.filter_eq_nil_iff]
    intro pair there
    simpa using others pair there
  rw [on, none, List.map_nil]

theorem mem_on {log : Log α} {entry : EntryId} {operation : Operation α} :
    operation ∈ log.on entry ↔ (entry, operation) ∈ log := by
  simp [on]

end Log

namespace Registry

variable {r r' r'' : Registry α} {log later : Log α}

/-- Every slot comes from what it was by its own part of a log. -/
def Follows (r : Registry α) (log : Log α) (r' : Registry α) : Prop :=
  ∀ entry, r'.cell entry = replay (r.cell entry) (log.on entry)

namespace Follows

theorem refl (r : Registry α) : r.Follows [] r := fun _ => rfl

theorem trans (first : r.Follows log r') (rest : r'.Follows later r'') : r.Follows (log ++ later) r'' := by
  intro entry
  rw [rest entry, first entry, Log.on_append, replay_append]

theorem of_cells (same : ∀ entry, r'.cell entry = r.cell entry) : r.Follows [] r' := same

theorem of_update {entry : EntryId} {operation : Operation α} {f : Slot α → Slot α} (made : entry < r.cells.length)
    (does : operation.on (r.cell entry) = (r.cell entry).update f) :
    r.Follows [(entry, operation)] (r.update entry f) := by
  intro other
  rw [Log.on_singleton]
  by_cases same : entry = other
  · subst same
    rw [if_pos rfl, r.cell_update_self f made]
    exact does.symm
  · rw [if_neg same, r.cell_update_of_ne f (Ne.symm same)]
    rfl

theorem getOrAdd (r : Registry α) (cache : Nat) (key : String) : r.Follows [] (r.getOrAdd cache key).2 :=
  of_cells (r.cell_getOrAdd cache key)

theorem markStale {entry : EntryId} (made : entry < r.cells.length) :
    r.Follows [(entry, .mark)] (r.markStale entry).2 := of_update made rfl

theorem settle {claim : Claim} (made : claim.entry < r.cells.length) (state : FetchState α) :
    r.Follows [(claim.entry, .settle claim.generation state)] (r.settle claim state) := of_update made rfl

theorem release {claim : Claim} (made : claim.entry < r.cells.length) :
    r.Follows [(claim.entry, .release)] (r.release claim) := of_update made rfl

theorem granted {entry : EntryId} {claim : Claim} (made : entry < r.cells.length)
    (granted : r.claim? entry = some (claim, r')) : r.Follows [(entry, .claim)] r' := by
  obtain ⟨can, -, rfl⟩ := claim?_eq_some.mp granted
  exact of_update made (if_pos can)

theorem refused {entry : EntryId} (cannot : (r.slot entry).canClaim = false) : r.Follows [(entry, .claim)] r := by
  intro other
  rw [Log.on_singleton]
  by_cases same : entry = other
  · subst same
    rw [if_pos rfl]
    exact (if_neg (Bool.eq_false_iff.mp cannot)).symm
  · rw [if_neg same]
    rfl

end Follows

end Registry

/-- The operation that an access is, and the slot that it is applied to. A claim that is let go after it has settled its
slot does nothing. -/
def Access.operation? : Access α → Option (EntryId × Operation α)
  | .claim h => some (h.claim.entry, .claim)
  | .refuse entry => some (entry, .claim)
  | .mark entry => some (entry, .mark)
  | .settle h state => some (h.claim.entry, .settle h.claim.generation state)
  | .drop h => if h.isSettled then none else some (h.claim.entry, .release)
  | _ => none

/-- The operations of accesses of which the newest comes first in the list. -/
def Access.log (past : List (Access α)) : Log α := past.reverse.filterMap Access.operation?

theorem Access.log_append (later past : List (Access α)) : log (later ++ past) = log past ++ log later := by
  rw [log, List.reverse_append, List.filterMap_append]
  rfl

theorem Access.log_cons (a : Access α) (past : List (Access α)) : log (a :: past) = log past ++ a.operation?.toList := by
  rw [← List.singleton_append, log_append]
  cases operated : a.operation? <;> simp [log, operated]

theorem Shared.follows_step {s t : Shared α} {a : Access α} (sound : s.Sound) (stepped : s.step a = some t) :
    s.registry.Follows a.operation?.toList t.registry := by
  cases a with
  | read =>
    cases stepped
    exact .refl _
  | add cache key =>
    cases stepped
    exact .getOrAdd s.registry cache key
  | remove cache key =>
    cases stepped
    exact .of_cells fun _ => rfl
  | clear cache =>
    cases stepped
    exact .of_cells fun _ => rfl
  | claim h =>
    obtain ⟨inside, can, -, rfl⟩ := Shared.step_claim.mp stepped
    exact .of_update inside (if_pos can)
  | refuse entry =>
    obtain ⟨cannot, rfl⟩ := Shared.step_refuse.mp stepped
    exact .refused cannot
  | mark entry =>
    obtain ⟨inside, rfl⟩ := Shared.step_mark.mp stepped
    exact .markStale inside
  | settle h state =>
    obtain ⟨⟨holds, -⟩, rfl⟩ := Shared.step_settle.mp stepped
    exact .settle (sound.inside h holds) state
  | drop h =>
    obtain ⟨holds, rfl⟩ := Shared.step_drop.mp stepped
    cases settled : h.isSettled with
    | true =>
      simp only [Access.operation?, Held.letGo, settled, if_true]
      exact .refl _
    | false =>
      simp only [Access.operation?, Held.letGo, settled]
      exact .release (sound.inside h holds)

theorem Shared.follows_run {s t : Shared α} {past : List (Access α)} (sound : s.Sound) (ran : s.run past = some t) :
    s.registry.Follows (Access.log past) t.registry := by
  induction past generalizing t with
  | nil =>
    cases ran
    exact .refl _
  | cons a past ih =>
    obtain ⟨m, earlier, stepped⟩ := Shared.run_cons.mp ran
    rw [Access.log_cons]
    exact (ih earlier).trans (Shared.follows_step (sound.run earlier) stepped)

/-- The operation that one of many threads carries out, if it is one on a slot. -/
def Deed.operation? : Deed α → Option (EntryId × Operation α)
  | .access a => a.operation?
  | _ => none

namespace Owned

variable {o p : Owned α} {d : Deed α} {past : List (Deed α)} {entry : EntryId}

def log (past : List (Deed α)) : Log α := past.reverse.filterMap Deed.operation?

theorem log_cons (d : Deed α) (past : List (Deed α)) : log (d :: past) = log past ++ d.operation?.toList := by
  rw [log, List.reverse_cons, List.filterMap_append]
  cases operated : d.operation? <;> simp [log, operated]

theorem follows_step (sound : o.shared.Sound) (done : o.step d = some p) :
    o.shared.registry.Follows d.operation?.toList p.shared.registry := by
  cases d with
  | access a => exact Shared.follows_step sound (step_access done).2.1
  | lookUp cache key =>
    cases done
    exact .refl _
  | duplicate other =>
    simp only [step, Option.ite_none_right_eq_some] at done
    obtain ⟨-, ⟨⟩⟩ := done
    exact .refl _
  | giveUp other =>
    simp only [step, Option.ite_none_right_eq_some] at done
    obtain ⟨-, ⟨⟩⟩ := done
    exact .refl _

theorem follows_run (sound : o.shared.Sound) (ran : o.run past = some p) :
    o.shared.registry.Follows (log past) p.shared.registry ∧ p.shared.Sound := by
  induction past generalizing p with
  | nil =>
    cases ran
    exact ⟨.refl _, sound⟩
  | cons d past ih =>
    obtain ⟨m, earlier, done⟩ := run_cons.mp ran
    obtain ⟨follows, between⟩ := ih earlier
    rw [log_cons]
    exact ⟨follows.trans (follows_step between done), sound_step between done⟩

/-- Whoever operates on a slot has a reference to it or a claim on it. -/
theorem holds_of_operation {operation : Operation α} (done : o.step d = some p)
    (operated : d.operation? = some (entry, operation)) :
    entry ∈ o.references ∨ ∃ h ∈ o.shared.held, h.claim.entry = entry := by
  cases d with
  | access a =>
    obtain ⟨warranted, stepped, -⟩ := step_access done
    cases a with
    | claim h | refuse other | mark other =>
      cases operated
      exact .inl (warranted _ rfl)
    | settle h state =>
      cases operated
      exact .inr ⟨h, (Shared.step_settle.mp stepped).1.1, rfl⟩
    | drop h =>
      simp only [Deed.operation?, Access.operation?, Option.ite_none_left_eq_some] at operated
      cases operated.2
      exact .inr ⟨h, (Shared.step_drop.mp stepped).1, rfl⟩
    | _ => cases operated
  | _ => cases operated

/-- A reference comes from another one, or from a key that leads to the slot or is made to. -/
theorem reference_cases (done : o.step d = some p) (there : entry ∈ p.references) :
    entry ∈ o.references ∨ ∃ cache key, (d = .lookUp cache key ∨ d = .access (.add cache key)) ∧
      (o.shared.registry.getOrAdd cache key).1 = entry := by
  cases d with
  | access a =>
    rw [(step_access done).2.2, List.mem_append] at there
    rcases there with old | new
    · exact .inl old
    · cases a with
      | add cache key => exact .inr ⟨cache, key, .inr rfl, (List.mem_singleton.mp new).symm⟩
      | _ => cases new
  | lookUp cache key =>
    cases done
    rcases List.mem_append.mp there with old | new
    · exact .inl old
    · refine .inr ⟨cache, key, .inl rfl, ?_⟩
      rw [Registry.getOrAdd, Option.mem_toList.mp new]
  | duplicate other =>
    simp only [step, Option.ite_none_right_eq_some] at done
    obtain ⟨referred, ⟨⟩⟩ := done
    rcases List.mem_cons.mp there with rfl | old
    · exact .inl referred
    · exact .inl old
  | giveUp other =>
    simp only [step, Option.ite_none_right_eq_some] at done
    obtain ⟨-, ⟨⟩⟩ := done
    exact .inl (List.mem_of_mem_erase there)

end Owned

end ChannelFeed.Cache
