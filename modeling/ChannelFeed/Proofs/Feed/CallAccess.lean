import ChannelFeed.Feed.Call
import ChannelFeed.Proofs.Sharing.Access

/-!
# The accesses of a call

A call goes on by single accesses to its one slot. Within a runtime each of them is an access to what is shared, so
that others may make theirs between any two.
-/
namespace ChannelFeed

open Cache

namespace Call

/-- What an access comes to, as a poll does: there is a call that goes on, or a state that it ended with. -/
def Progress.polled : Progress → Polled Call ChannelState
  | .going next | .blocked next => .pending next
  | .settled state => .done state

/-- The access by which the right to fetch a slot is asked for, be it granted or not. -/
def ask (s : Shared (List Channel)) (entry : EntryId) : Access (List Channel) :=
  match s.registry.claim? entry with
  | some (claim, _) => .claim ⟨s.taken, claim, false⟩
  | none => .refuse entry

/-- The access that a call makes next within a runtime. -/
def nextAccess (c : Call) (s : Shared (List Channel)) : Access (List Channel) :=
  match c.phase with
  | .starting | .retrying _ => ask s c.entry
  | .waiting _ | .checking _ => .read

variable {c next : Call} {s t : Shared (List Channel)}

theorem claim?_eq_some {inRuntime : Bool} {r : Registry (List Channel)} {entry : EntryId}
    {granted : Claim × Registry (List Channel)} :
    claim? inRuntime r entry = some granted ↔ inRuntime = true ∧ r.claim? entry = some granted := by
  rw [claim?, Option.ite_none_right_eq_some]

theorem same_access {inRuntime : Bool} {r : Registry (List Channel)}
    (goes : (c.access inRuntime r).1.polled = .pending next) :
    next.feed = c.feed ∧ next.entry = c.entry ∧ next.since = c.since := by
  unfold access at goes
  split at goes
  · split at goes <;> cases goes <;> exact ⟨rfl, rfl, rfl⟩
  · split at goes
    · cases goes
      exact ⟨rfl, rfl, rfl⟩
    · split at goes
      · cases goes
      · cases goes
        exact ⟨rfl, rfl, rfl⟩
  · split at goes <;> cases goes <;> exact ⟨rfl, rfl, rfl⟩
  · split at goes
    · cases goes
      exact ⟨rfl, rfl, rfl⟩
    · cases goes

/-- To ask for the right to fetch changes the slots and the claims in hands as it is granted or not. -/
theorem step_ask {entry : EntryId} (made : s.step (ask s entry) = some t) :
    t.registry = ((s.registry.claim? entry).map Prod.snd).getD s.registry ∧
      t.held = s.held ++ ((s.registry.claim? entry).map Prod.fst).toList.map (⟨s.taken, ·, false⟩) := by
  unfold ask at made
  cases asked : s.registry.claim? entry with
  | none =>
    rw [asked] at made
    obtain ⟨-, rfl⟩ := Shared.step_refuse.mp made
    exact ⟨rfl, (List.append_nil _).symm⟩
  | some granted =>
    obtain ⟨claim, r⟩ := granted
    rw [asked] at made
    obtain ⟨-, rfl, rfl⟩ := Registry.claim?_eq_some.mp asked
    obtain ⟨-, -, -, rfl⟩ := Shared.step_claim.mp made
    exact ⟨rfl, rfl⟩

theorem exists_step_ask {entry : EntryId} (made : entry < s.registry.cells.length) :
    ∃ t, s.step (ask s entry) = some t := by
  unfold ask
  cases asked : s.registry.claim? entry with
  | none => exact ⟨s, Shared.step_refuse.mpr ⟨Registry.claim?_eq_none.mp asked, rfl⟩⟩
  | some granted =>
    obtain ⟨can, same, -⟩ := Registry.claim?_eq_some.mp asked
    exact ⟨_, Shared.step_claim.mpr ⟨same ▸ made, same ▸ can, same ▸ rfl, rfl⟩⟩

theorem exists_step_nextAccess (made : c.entry < s.registry.cells.length) :
    ∃ t, s.step (c.nextAccess s) = some t := by
  unfold nextAccess
  split
  · exact exists_step_ask made
  · exact exists_step_ask made
  · exact ⟨s, rfl⟩
  · exact ⟨s, rfl⟩

/-- What a call makes of the slots, and the claim that it takes, is what its access makes of them. -/
theorem step_nextAccess (made : s.step (c.nextAccess s) = some t) :
    t.registry = (c.access true s.registry).2.2 ∧
      t.held = s.held ++ (c.access true s.registry).2.1.toList.map (⟨s.taken, ·, false⟩) := by
  unfold nextAccess at made
  unfold access
  cases phase : c.phase with
  | starting =>
    rw [phase] at made
    obtain ⟨registry, held⟩ := step_ask made
    rw [registry, held]
    simp only [claim?, if_true]
    cases s.registry.claim? c.entry <;> exact ⟨rfl, rfl⟩
  | retrying found =>
    rw [phase] at made
    obtain ⟨registry, held⟩ := step_ask made
    rw [registry, held]
    simp only [claim?, if_true]
    cases s.registry.claim? c.entry <;> exact ⟨rfl, rfl⟩
  | waiting wait =>
    rw [phase] at made
    obtain rfl : s = t := Option.some.inj made
    have same := (List.append_nil s.held).symm
    dsimp only
    split
    · exact ⟨rfl, same⟩
    · split <;> exact ⟨rfl, same⟩
  | checking found =>
    rw [phase] at made
    obtain rfl : s = t := Option.some.inj made
    have same := (List.append_nil s.held).symm
    dsimp only
    split <;> exact ⟨rfl, same⟩

end Call

end ChannelFeed
