import ChannelFeed.Proofs.Feed.CallAccess
import ChannelFeed.Proofs.Feed.Turns
import ChannelFeed.Proofs.Sharing.Waiting

/-!
# Polling a call

In one poll nobody else takes a turn, so what it comes to is told by the slot: the call waits while a fetch is on its
way, and otherwise it has its state unless that is too old, which is a reason to start a fetch and wait for it. A call
that cannot start one makes do with what it has found.
-/
namespace ChannelFeed

open Cache

/-- What holds of a call that waits, whatever others do. -/
structure Call.Waits (c : Call) (r : Registry (List Channel)) : Prop where
  wait : ∃ wait, c.phase = .waiting wait ∧ wait.entry = c.entry ∧ wait.receiver.isSome = true ∧ wait.Attentive r
  since : c.since ≤ (r.slot c.entry).generation

theorem Call.Waits.precedes {c : Call} {r r' : Registry (List Channel)} (waits : c.Waits r)
    (later : (r.cell c.entry).Precedes (r'.cell c.entry)) : c.Waits r' where
  wait := by
    obtain ⟨wait, phase, here, looked, attentive⟩ := waits.wait
    exact ⟨wait, phase, here, looked, attentive.precedes (here ▸ later)⟩
  since := Nat.le_trans waits.since later.generation

namespace World

/-- How a call that is past its own first attempt to fetch goes on. -/
inductive Polls (w : World) (inRuntime : Bool) (c : Call) : Polled Call ChannelState × World → Prop where
  | blocked {rest : Wait} : (w.registry.slot c.entry).isFetching = true → rest.entry = c.entry →
    rest.receiver.isSome = true → rest.Attentive w.registry →
    Polls w inRuntime c (.pending { c with phase := .waiting rest }, w)
  | ended : (w.registry.slot c.entry).isFetching = false →
    c.since ≤ (w.registry.slot c.entry).settledGeneration →
    Polls w inRuntime c (.done (w.registry.slot c.entry).state, w)
  | renewed {claim : Claim} {r : Registry (List Channel)} : (w.registry.slot c.entry).isFetching = false →
    (w.registry.slot c.entry).settledGeneration < c.since →
    Call.claim? inRuntime w.registry c.entry = some (claim, r) →
    Polls w inRuntime c (.pending { c with phase := .waiting ⟨c.entry, some (.subscribe r c.entry)⟩ },
      launch { w with registry := r } c.feed (some claim))
  | outdated : (w.registry.slot c.entry).isFetching = false →
    (w.registry.slot c.entry).settledGeneration < c.since →
    Call.claim? inRuntime w.registry c.entry = none →
    Polls w inRuntime c (.done (w.registry.slot c.entry).state, w)

variable {w : World} {c : Call} {inRuntime : Bool}

theorem poll_start (r : Registry (List Channel)) (entry : EntryId) :
    (Wait.start entry).poll r =
      if (r.slot entry).isFetching then .pending ⟨entry, some (.subscribe r entry)⟩ else .done (r.slot entry) := rfl

theorem slot_claimed {entry : EntryId} {claim : Claim} {r : Registry (List Channel)}
    (made : entry < w.registry.cells.length) (granted : Call.claim? inRuntime w.registry entry = some (claim, r)) :
    claim.entry = entry ∧ r.slot entry = (w.registry.slot entry).claimed := by
  obtain ⟨-, rfl, rfl⟩ := Registry.claim?_eq_some.mp (Call.claim?_eq_some.mp granted).2
  exact ⟨rfl, by rw [Registry.slot_update _ _ _ made, if_pos rfl]⟩

/-- A call that has found its slot too old. Nobody has touched the slot since. -/
theorem advance_retrying {found : Slot (List Channel)} (made : c.entry < w.registry.cells.length)
    (idle : (w.registry.slot c.entry).isFetching = false) (phase : c.phase = .retrying found) (n : Nat) :
    w.advance inRuntime c (n + 2) =
      match Call.claim? inRuntime w.registry c.entry with
      | some (claim, r) => (.pending { c with phase := .waiting ⟨c.entry, some (.subscribe r c.entry)⟩ },
          launch { w with registry := r } c.feed (some claim))
      | none => (.done found.state, w) := by
  cases asked : Call.claim? inRuntime w.registry c.entry with
  | none => simp [advance, Call.access, phase, asked, idle, launch]
  | some granted =>
    obtain ⟨claim, r⟩ := granted
    have busy : (r.slot c.entry).isFetching = true := by
      rw [(slot_claimed made asked).2]
      rfl
    simp [advance, Call.access, phase, asked, Call.awaiting, launch, poll_start, busy]

theorem advance_waiting {wait : Wait} (made : c.entry < w.registry.cells.length) (phase : c.phase = .waiting wait)
    (here : wait.entry = c.entry) (attentive : wait.Attentive w.registry) (n : Nat) :
    Polls w inRuntime c (w.advance inRuntime c (n + 3)) := by
  cases busy : (w.registry.slot c.entry).isFetching with
  | true =>
    obtain ⟨rest, waits, still, same, has⟩ := attentive.poll_busy (here ▸ busy)
    have blocked : w.advance inRuntime c (n + 3) = (.pending { c with phase := .waiting rest }, w) := by
      simp [advance, Call.access, phase, waits, launch]
    rw [blocked]
    exact .blocked busy (same.trans here) has still
  | false =>
    have looked : wait.poll w.registry = .done (w.registry.slot c.entry) := here ▸ attentive.poll_idle (here ▸ busy)
    by_cases enough : c.since ≤ (w.registry.slot c.entry).settledGeneration
    · have ended : w.advance inRuntime c (n + 3) = (.done (w.registry.slot c.entry).state, w) := by
        simp [advance, Call.access, phase, looked, enough, launch]
      rw [ended]
      exact .ended busy enough
    · have old := Nat.lt_of_not_le enough
      have found : w.advance inRuntime c (n + 3) =
          w.advance inRuntime { c with phase := .retrying (w.registry.slot c.entry) } (n + 2) := by
        rw [advance]
        simp only [Call.access, phase, looked, if_neg enough, launch]
      rw [found, advance_retrying (c := { c with phase := .retrying (w.registry.slot c.entry) }) made busy rfl]
      cases asked : Call.claim? inRuntime w.registry c.entry with
      | none => exact .outdated busy old asked
      | some granted => exact .renewed busy old asked

theorem advance_starting (phase : c.phase = .starting) (n : Nat) :
    w.advance inRuntime c (n + 1) = (w.startFetch inRuntime c.feed c.entry).2.advance inRuntime c.awaiting n := by
  unfold startFetch
  cases asked : Call.claim? inRuntime w.registry c.entry with
  | none => simp [advance, Call.access, phase, asked, launch]
  | some granted => simp [advance, Call.access, phase, asked, launch]

theorem length_startFetch (w : World) (inRuntime : Bool) (feed : Feed) (entry : EntryId) :
    (w.startFetch inRuntime feed entry).2.registry.cells.length = w.registry.cells.length := by
  unfold startFetch
  split
  · next claim registry granted =>
    obtain ⟨-, -, rfl⟩ := Registry.claim?_eq_some.mp (Call.claim?_eq_some.mp granted).2
    exact Registry.length_update ..
  · rfl

theorem polls_waiting (inRuntime : Bool) (made : c.entry < w.registry.cells.length) (waits : c.Waits w.registry) :
    Polls w inRuntime c (w.advance inRuntime c maxAccesses) := by
  obtain ⟨wait, phase, here, -, attentive⟩ := waits.wait
  exact advance_waiting made phase here attentive 2

theorem polls_starting (inRuntime : Bool) (made : c.entry < w.registry.cells.length) (phase : c.phase = .starting) :
    Polls (w.startFetch inRuntime c.feed c.entry).2 inRuntime c.awaiting (w.advance inRuntime c maxAccesses) := by
  have first : w.advance inRuntime c maxAccesses =
      (w.startFetch inRuntime c.feed c.entry).2.advance inRuntime c.awaiting 4 := advance_starting phase 4
  have made : c.awaiting.entry < (w.startFetch inRuntime c.feed c.entry).2.registry.cells.length := by
    rw [length_startFetch]
    exact made
  rw [first]
  exact advance_waiting made rfl rfl (.start _ _) 1

theorem Polls.waits {rest : Call} {w' : World} (polls : Polls w inRuntime c (.pending rest, w'))
    (made : c.entry < w.registry.cells.length) (since : c.since ≤ (w.registry.slot c.entry).generation) :
    rest.feed = c.feed ∧ rest.entry = c.entry ∧ rest.since = c.since ∧ rest.Waits w'.registry ∧
      (w'.registry.slot c.entry).isFetching = true := by
  cases polls with
  | blocked busy here looked attentive => exact ⟨rfl, rfl, rfl, ⟨⟨_, rfl, here, looked, attentive⟩, since⟩, busy⟩
  | @renewed claim r idle old granted =>
    have busy : r.slot c.entry = (w.registry.slot c.entry).claimed := (slot_claimed made granted).2
    refine ⟨rfl, rfl, rfl, ⟨⟨_, rfl, rfl, rfl, .subscribe ?_⟩, ?_⟩, ?_⟩
    · rw [busy]
      rfl
    · change c.since ≤ (r.slot c.entry).generation
      rw [busy]
      exact since
    · change (r.slot c.entry).isFetching = true
      rw [busy]
      rfl

end World

end ChannelFeed
