import ChannelFeed.Cache.Registry

/-!
# Shared slots

What is done to slots that many share. Every operation on a cache, a slot or a claim comes down to single
accesses, and others may make theirs between any two of them. Showing channels, loading and subscribing read or
add a key, ask for the right to fetch, and read; asking anew and heeding a trigger mark the slot besides. A fetch
settles its claim and lets it go, or is dropped on its way and only lets it go. A run is the list of the accesses
that were made, the newest first: what holds of every run holds of any number of threads in any order.
-/
namespace ChannelFeed.Cache

variable {α : Type}

/-- A claim in someone's hands, be it a fetch on its way or whoever took it by hand. -/
structure Held where
  /-- How many claims were taken before it. -/
  number : Nat
  claim : Claim
  /-- Whether it has settled its slot, so that it only remains to let it go. -/
  isSettled : Bool
deriving DecidableEq, Repr

namespace Held

/-- The claim once it has settled its slot. -/
def spent (h : Held) : Held := { h with isSettled := true }

/-- Whether it is a claim on the slot that has not settled it. -/
def isLiveOn (h : Held) (entry : EntryId) : Bool := !h.isSettled && h.claim.entry == entry

/-- What it does to the slots to let a claim go: one that has not settled its slot releases it. -/
def letGo (h : Held) (r : Registry α) : Registry α := if h.isSettled then r else r.release h.claim

theorem isLiveOn_iff (h : Held) (entry : EntryId) :
    h.isLiveOn entry = true ↔ h.isSettled = false ∧ h.claim.entry = entry := by
  simp [isLiveOn]

end Held

/-- One access to what is shared. A claim is recorded as it was when it was taken, settled or let go. -/
inductive Access (α : Type) where
  | read
  /-- Makes the slot of a key, if there is none. -/
  | add (cache : Nat) (key : String)
  | remove (cache : Nat) (key : String)
  | clear (cache : Nat)
  | claim (held : Held)
  /-- Asks for the right to fetch and is refused. -/
  | refuse (entry : EntryId)
  | mark (entry : EntryId)
  | settle (held : Held) (state : FetchState α)
  | drop (held : Held)

/-- What all threads of a run share, and the claims that are in their hands. -/
structure Shared (α : Type) where
  registry : Registry α
  held : List Held
  taken : Nat

namespace Shared

/-- Nothing has been done to a number of empty caches. -/
def start (caches : Nat) : Shared α := ⟨.empty caches, [], 0⟩

/-- Makes one access. There is no result if nobody can make it: a slot must have been made before it is claimed
or marked, only one that can be claimed is, and only a claim that is held is settled, once, or let go. -/
def step (s : Shared α) : Access α → Option (Shared α)
  | .read => some s
  | .add cache key => some { s with registry := (s.registry.getOrAdd cache key).2 }
  | .remove cache key => some { s with registry := (s.registry.remove cache key).2 }
  | .clear cache => some { s with registry := s.registry.clear cache }
  | .claim h =>
    (s.registry.claim? h.claim.entry).bind fun (claim, registry) =>
      if h.claim.entry < s.registry.cells.length ∧ h = ⟨s.taken, claim, false⟩ then
        some ⟨registry, s.held ++ [h], s.taken + 1⟩
      else none
  | .refuse entry => if (s.registry.claim? entry).isNone then some s else none
  | .mark entry =>
    if entry < s.registry.cells.length then some { s with registry := (s.registry.markStale entry).2 }
    else none
  | .settle h state =>
    if h ∈ s.held ∧ h.isSettled = false then
      some { s with
        registry := s.registry.settle h.claim state
        held := s.held.filter (· ≠ h) ++ [h.spent] }
    else none
  | .drop h =>
    if h ∈ s.held then some { s with registry := h.letGo s.registry, held := s.held.filter (· ≠ h) }
    else none

/-- Makes the accesses of a run, the newest of which comes first in the list. -/
def run (s : Shared α) : List (Access α) → Option (Shared α)
  | [] => some s
  | a :: past => (s.run past).bind (·.step a)

theorem run_cons {s t : Shared α} {a : Access α} {past : List (Access α)} :
    s.run (a :: past) = some t ↔ ∃ m, s.run past = some m ∧ m.step a = some t := by
  simp [run, Option.bind_eq_some_iff]

theorem run_append {s t : Shared α} {later past : List (Access α)} :
    s.run (later ++ past) = some t ↔ ∃ m, s.run past = some m ∧ m.run later = some t := by
  induction later generalizing t with
  | nil => simp [run]
  | cons a later ih =>
    rw [List.cons_append, run_cons]
    constructor
    · rintro ⟨m, ran, stepped⟩
      obtain ⟨n, first, rest⟩ := ih.mp ran
      exact ⟨n, first, run_cons.mpr ⟨m, rest, stepped⟩⟩
    · rintro ⟨n, first, ran⟩
      obtain ⟨m, rest, stepped⟩ := run_cons.mp ran
      exact ⟨m, ih.mpr ⟨n, first, rest⟩, stepped⟩

theorem exists_step_of_mem {s t : Shared α} {a : Access α} {past : List (Access α)} (ran : s.run past = some t)
    (there : a ∈ past) : ∃ m n : Shared α, m.step a = some n := by
  induction past generalizing t with
  | nil => cases there
  | cons newest past ih =>
    obtain ⟨m, earlier, made⟩ := run_cons.mp ran
    rcases List.mem_cons.mp there with rfl | older
    · exact ⟨m, t, made⟩
    · exact ih earlier older

/-- The claims on a slot that have not settled it. -/
def live (s : Shared α) (entry : EntryId) : List Held := s.held.filter (·.isLiveOn entry)

theorem mem_live {s : Shared α} {entry : EntryId} {h : Held} :
    h ∈ s.live entry ↔ h ∈ s.held ∧ h.isSettled = false ∧ h.claim.entry = entry := by
  rw [live, List.mem_filter, Held.isLiveOn_iff]

end Shared

theorem Registry.claim?_eq_some {r r' : Registry α} {entry : EntryId} {claim : Claim} :
    r.claim? entry = some (claim, r') ↔
      (r.slot entry).canClaim = true ∧ claim = ⟨entry, (r.slot entry).generation⟩ ∧
        r' = r.update entry Slot.claimed := by
  unfold claim?
  split
  · next can => simp [can, eq_comm]
  · next cannot => simp [cannot]

theorem Registry.claim?_eq_none {r : Registry α} {entry : EntryId} :
    r.claim? entry = none ↔ (r.slot entry).canClaim = false := by
  simp [claim?]

namespace Shared

variable {s t : Shared α}

theorem step_claim {h : Held} :
    s.step (.claim h) = some t ↔
      h.claim.entry < s.registry.cells.length ∧ (s.registry.slot h.claim.entry).canClaim = true ∧
        h = ⟨s.taken, ⟨h.claim.entry, (s.registry.slot h.claim.entry).generation⟩, false⟩ ∧
        t = ⟨s.registry.update h.claim.entry Slot.claimed, s.held ++ [h], s.taken + 1⟩ := by
  simp only [step, Option.bind_eq_some_iff, Prod.exists, Registry.claim?_eq_some]
  constructor
  · rintro ⟨claim, r, ⟨can, rfl, rfl⟩, granted⟩
    split at granted
    · next ok => exact ⟨ok.1, can, ok.2, (Option.some.inj granted).symm⟩
    · cases granted
  · rintro ⟨inside, can, same, rfl⟩
    exact ⟨_, _, ⟨can, rfl, rfl⟩, if_pos ⟨inside, same⟩⟩

theorem step_refuse {entry : EntryId} :
    s.step (.refuse entry) = some t ↔ (s.registry.slot entry).canClaim = false ∧ t = s := by
  rw [step, Option.ite_none_right_eq_some, Option.isNone_iff_eq_none, Registry.claim?_eq_none, Option.some_inj,
    eq_comm (b := t)]

theorem step_mark {entry : EntryId} :
    s.step (.mark entry) = some t ↔
      entry < s.registry.cells.length ∧ t = { s with registry := (s.registry.markStale entry).2 } := by
  rw [step, Option.ite_none_right_eq_some, Option.some_inj, eq_comm (b := t)]

theorem step_settle {h : Held} {state : FetchState α} :
    s.step (.settle h state) = some t ↔
      (h ∈ s.held ∧ h.isSettled = false) ∧
        t = { s with
          registry := s.registry.settle h.claim state
          held := s.held.filter (· ≠ h) ++ [h.spent] } := by
  rw [step, Option.ite_none_right_eq_some, Option.some_inj, eq_comm (b := t)]

theorem step_drop {h : Held} :
    s.step (.drop h) = some t ↔
      h ∈ s.held ∧ t = { s with registry := h.letGo s.registry, held := s.held.filter (· ≠ h) } := by
  rw [step, Option.ite_none_right_eq_some, Option.some_inj, eq_comm (b := t)]

end Shared

/-- What an access does to one slot. -/
def Access.effect (entry : EntryId) (slot : Slot α) : Access α → Slot α
  | .claim h => if entry = h.claim.entry then slot.claimed else slot
  | .mark other => if entry = other then slot.markedStale else slot
  | .settle h state => if entry = h.claim.entry then slot.settled h.claim.generation state else slot
  | .drop h => if h.isLiveOn entry then slot.released else slot
  | _ => slot

/-- What an access does to the claims that are live on one slot. -/
def Access.liveAfter (entry : EntryId) (live : List Held) : Access α → List Held
  | .claim h => if entry = h.claim.entry then live ++ [h] else live
  | .settle h _ | .drop h => live.filter (· ≠ h)
  | _ => live

/-- Whether an access can change the slot or the claims that are live on it. -/
def Access.concerns (entry : EntryId) : Access α → Bool
  | .claim h | .settle h _ => h.claim.entry == entry
  | .mark other => other == entry
  | .drop h => h.isLiveOn entry
  | _ => false

namespace Registry

/-- A slot that is made changes no slot, since one that was not made reads as a fresh one. -/
theorem cell_getOrAdd (r : Registry α) (cache : Nat) (key : String) (entry : EntryId) :
    (r.getOrAdd cache key).2.cell entry = r.cell entry := by
  unfold getOrAdd
  split
  · rfl
  · simp only [cell]
    rcases Nat.lt_trichotomy entry r.cells.length with before | last | behind
    · rw [List.getElem?_append_left before]
    · rw [last, List.getElem?_concat_length, List.getElem?_eq_none (Nat.le_refl _)]
      rfl
    · rw [List.getElem?_eq_none (by simp; omega), List.getElem?_eq_none (by omega)]

theorem slot_getOrAdd (r : Registry α) (cache : Nat) (key : String) (entry : EntryId) :
    (r.getOrAdd cache key).2.slot entry = r.slot entry :=
  congrArg Cell.slot (r.cell_getOrAdd cache key entry)

theorem length_getOrAdd (r : Registry α) (cache : Nat) (key : String) :
    r.cells.length ≤ (r.getOrAdd cache key).2.cells.length := by
  unfold getOrAdd
  split
  · exact Nat.le_refl _
  · simp

end Registry

namespace Shared

variable {s t : Shared α} {a : Access α}

theorem length_step (made : s.step a = some t) : s.registry.cells.length ≤ t.registry.cells.length := by
  cases a with
  | read => cases made; exact Nat.le_refl _
  | add cache key => cases made; exact s.registry.length_getOrAdd cache key
  | remove cache key => cases made; exact Nat.le_refl _
  | clear cache => cases made; exact Nat.le_refl _
  | claim h =>
    obtain ⟨-, -, -, rfl⟩ := step_claim.mp made
    simp [Registry.length_update]
  | refuse entry =>
    obtain ⟨-, rfl⟩ := step_refuse.mp made
    exact Nat.le_refl _
  | mark entry =>
    rw [(step_mark.mp made).2]
    simp [Registry.markStale, Registry.length_update]
  | settle h state =>
    rw [(step_settle.mp made).2]
    simp [Registry.settle, Registry.length_update]
  | drop h =>
    rw [(step_drop.mp made).2]
    simp only [Held.letGo]
    split
    · exact Nat.le_refl _
    · simp [Registry.release, Registry.length_update]

theorem slot_step (inside : ∀ h ∈ s.held, h.claim.entry < s.registry.cells.length)
    (made : s.step a = some t) (entry : EntryId) :
    t.registry.slot entry = a.effect entry (s.registry.slot entry) := by
  cases a with
  | read => cases made; rfl
  | add cache key => cases made; exact s.registry.slot_getOrAdd cache key entry
  | remove cache key => cases made; rfl
  | clear cache => cases made; rfl
  | claim h =>
    obtain ⟨there, -, -, rfl⟩ := step_claim.mp made
    exact s.registry.slot_update entry Slot.claimed there
  | refuse other => rw [(step_refuse.mp made).2]; rfl
  | mark other =>
    obtain ⟨there, rfl⟩ := step_mark.mp made
    exact s.registry.slot_update entry Slot.markedStale there
  | settle h state =>
    obtain ⟨⟨holds, -⟩, rfl⟩ := step_settle.mp made
    exact s.registry.slot_update entry (·.settled h.claim.generation state) (inside h holds)
  | drop h =>
    obtain ⟨holds, rfl⟩ := step_drop.mp made
    cases settled : h.isSettled with
    | true => simp [Held.letGo, Access.effect, Held.isLiveOn, settled]
    | false =>
      have released : (s.registry.release h.claim).slot entry = _ :=
        s.registry.slot_update entry Slot.released (inside h holds)
      by_cases same : entry = h.claim.entry
      · simpa [Held.letGo, Access.effect, Held.isLiveOn, settled, same] using released
      · simpa [Held.letGo, Access.effect, Held.isLiveOn, settled, same, Ne.symm same] using released

theorem live_step (made : s.step a = some t) (entry : EntryId) :
    t.live entry = a.liveAfter entry (s.live entry) := by
  cases a with
  | read => cases made; rfl
  | add cache key => cases made; rfl
  | remove cache key => cases made; rfl
  | clear cache => cases made; rfl
  | claim h =>
    obtain ⟨-, -, new, rfl⟩ := step_claim.mp made
    have unsettled : h.isSettled = false := by rw [new]
    by_cases same : h.claim.entry = entry
    · simp [live, Access.liveAfter, Held.isLiveOn, unsettled, same]
    · simp [live, Access.liveAfter, Held.isLiveOn, same, Ne.symm same]
  | refuse other => rw [(step_refuse.mp made).2]; rfl
  | mark other => rw [(step_mark.mp made).2]; rfl
  | settle h state =>
    rw [(step_settle.mp made).2]
    simp [live, Access.liveAfter, Held.spent, Held.isLiveOn, List.filter_filter, Bool.and_comm]
  | drop h =>
    rw [(step_drop.mp made).2]
    simp [live, Access.liveAfter, List.filter_filter, Bool.and_comm]

/-- A claim that is not live on a slot is none of those that are. -/
theorem live_without {entry : EntryId} {h : Held} (off : h.isLiveOn entry = false) :
    (s.live entry).filter (· ≠ h) = s.live entry := by
  rw [List.filter_eq_self]
  intro other live
  have on := (List.mem_filter.mp live).2
  refine decide_eq_true ?_
  rintro rfl
  rw [off] at on
  cases on

/-- An access that does not concern a slot changes neither it nor the claims on it. -/
theorem same_of_not_concerns (inside : ∀ h ∈ s.held, h.claim.entry < s.registry.cells.length)
    (made : s.step a = some t) {entry : EntryId} (off : a.concerns entry = false) :
    t.registry.slot entry = s.registry.slot entry ∧ t.live entry = s.live entry := by
  rw [slot_step inside made, live_step made]
  cases a with
  | claim h =>
    have other := (beq_eq_false_iff_ne.mp off).symm
    rw [Access.effect, Access.liveAfter, if_neg other, if_neg other]
    exact ⟨rfl, rfl⟩
  | mark other =>
    rw [Access.effect, if_neg (beq_eq_false_iff_ne.mp off).symm]
    exact ⟨rfl, rfl⟩
  | settle h state =>
    have other := beq_eq_false_iff_ne.mp off
    rw [Access.effect, if_neg other.symm, Access.liveAfter, live_without (by simp [Held.isLiveOn, other])]
    exact ⟨rfl, rfl⟩
  | drop h =>
    have off : h.isLiveOn entry = false := off
    rw [Access.effect, if_neg (Bool.eq_false_iff.mp off), Access.liveAfter, live_without off]
    exact ⟨rfl, rfl⟩
  | _ => exact ⟨rfl, rfl⟩

/-- Whoever holds a claim has held it before, or has just taken it. -/
theorem held_step (made : s.step a = some t) {h : Held} (holds : h ∈ t.held) :
    (∃ old ∈ s.held, h.number = old.number ∧ h.claim = old.claim) ∨ a = .claim h := by
  cases a with
  | claim taken =>
    obtain ⟨-, -, -, rfl⟩ := step_claim.mp made
    rcases List.mem_append.mp holds with old | new
    · exact .inl ⟨h, old, rfl, rfl⟩
    · rw [List.mem_singleton.mp new]
      exact .inr rfl
  | settle ended state =>
    obtain ⟨⟨held, -⟩, rfl⟩ := step_settle.mp made
    rcases List.mem_append.mp holds with old | new
    · exact .inl ⟨h, (List.mem_filter.mp old).1, rfl, rfl⟩
    · rw [List.mem_singleton.mp new]
      exact .inl ⟨ended, held, rfl, rfl⟩
  | drop ended =>
    obtain ⟨-, rfl⟩ := step_drop.mp made
    exact .inl ⟨h, (List.mem_filter.mp holds).1, rfl, rfl⟩
  | refuse entry =>
    obtain ⟨-, rfl⟩ := step_refuse.mp made
    exact .inl ⟨h, holds, rfl, rfl⟩
  | mark entry =>
    obtain ⟨-, rfl⟩ := step_mark.mp made
    exact .inl ⟨h, holds, rfl, rfl⟩
  | _ =>
    cases made
    exact .inl ⟨h, holds, rfl, rfl⟩

theorem taken_step (made : s.step a = some t) : s.taken ≤ t.taken := by
  cases a with
  | claim h =>
    obtain ⟨-, -, -, rfl⟩ := step_claim.mp made
    exact Nat.le_succ _
  | refuse entry =>
    obtain ⟨-, rfl⟩ := step_refuse.mp made
    exact Nat.le_refl _
  | mark entry =>
    obtain ⟨-, rfl⟩ := step_mark.mp made
    exact Nat.le_refl _
  | settle h state =>
    obtain ⟨-, rfl⟩ := step_settle.mp made
    exact Nat.le_refl _
  | drop h =>
    obtain ⟨-, rfl⟩ := step_drop.mp made
    exact Nat.le_refl _
  | _ => cases made; exact Nat.le_refl _

end Shared

end ChannelFeed.Cache
