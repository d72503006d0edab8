import ChannelFeed.Proofs.Feed.Changes

/-!
# Waking

Whoever waits for the end of a fetch is woken by it, be it that the fetch settles its slot or is given up, and has to
wait no longer than that. To load is to wait so, once.
-/
namespace ChannelFeed

open Cache

namespace Cache.Awaited

variable {α : Type} {entry : EntryId} {o p : Owned α} {w : Wait} {h : Held} {a : Access α}

/-- The end of the claim that is waited for publishes a version that the receiver has not seen. -/
theorem wakes (awaited : Awaited entry o w) (live : h ∈ o.shared.live entry) (ends : a.ends h = true)
    (done : o.step (.access a) = some p) (rx : Receiver) (has : w.receiver = some rx) :
    rx.isBehind p.shared.registry = true := by
  obtain ⟨rfl, attentive⟩ := awaited.attentive
  obtain ⟨holds, unsettled, on⟩ := Shared.mem_live.mp live
  obtain ⟨-, stepped, -⟩ := Owned.step_access done
  have concerns : a.concerns w.entry = true := by
    cases a with
    | settle other state => exact beq_iff_eq.mpr (beq_iff_eq.mp ends ▸ on)
    | drop other => exact beq_iff_eq.mp ends ▸ (h.isLiveOn_iff _).mpr ⟨unsettled, on⟩
    | _ => cases ends
  have version := Shared.version_step awaited.sound.inside stepped w.entry
  rw [concerns, if_pos rfl] at version
  have seen := attentive.seen rx has
  rw [Receiver.isBehind, attentive.entry rx has, version, bne_iff_ne]
  omega

end Cache.Awaited

namespace World

variable {w w' : World} {c : Call} {inRuntime : Bool}

/-- There is a claim on a slot exactly while it is marked as being fetched. -/
theorem Intact.claimsOn_ne_nil (intact : w.Intact) (entry : EntryId) :
    w.claimsOn entry ≠ [] ↔ (w.registry.slot entry).isFetching = true := by
  rw [← List.length_pos_iff, intact.length_claimsOn]
  split <;> simp_all

/-- A call that is content with any state has it as soon as no fetch is on its way. -/
theorem Polls.of_load {result : Polled Call ChannelState × World} (polls : Polls w inRuntime c result)
    (any : c.since = 0) :
    if (w.registry.slot c.entry).isFetching then ∃ rest, result = (.pending rest, w)
    else result = (.done (w.registry.slot c.entry).state, w) := by
  cases polls with
  | blocked busy => exact if_pos busy ▸ ⟨_, rfl⟩
  | ended idle => rw [idle]; rfl
  | renewed idle old => exact absurd (any ▸ old) (Nat.not_lt_zero _)
  | outdated idle old => exact absurd (any ▸ old) (Nat.not_lt_zero _)

/-- What is heard of a load that is polled. Its own attempt to start a fetch comes before its first look. -/
theorem answer_of_load {w₀ : World} {c₀ : Call} (polls : Polls w inRuntime c (w₀.advance inRuntime c₀ maxAccesses))
    (intact : w.Intact) (any : c.since = 0) :
    (w₀.pollCall inRuntime c₀).1.answer =
      if w.claimsOn c.entry = [] then .result (c₀.feed.options.policy.resolve (w.registry.slot c.entry).state)
      else .pending := by
  have comes := polls.of_load any
  have claimed := intact.claimsOn_ne_nil c.entry
  unfold pollCall
  cases busy : (w.registry.slot c.entry).isFetching with
  | true =>
    rw [busy] at comes claimed
    obtain ⟨rest, same⟩ : ∃ rest, _ = (Polled.pending rest, w) := comes
    rw [same, if_neg (claimed.mpr rfl)]
    rfl
  | false =>
    rw [busy] at comes claimed
    have same : _ = (Polled.done (w.registry.slot c.entry).state, w) := comes
    rw [same, if_pos (by simpa using claimed)]
    rfl

/-- How a call in line stands. Its wait stands as any does, and if it is content with any state, it has it as soon as
there is no claim on its slot. -/
structure InLine (w : World) (place : Nat) (c : Call) : Prop where
  stands : ∃ wait, c.phase = .waiting wait ∧ wait.entry = c.entry ∧
    wait.Stands w.registry (w.claimsOn c.entry ≠ []) (w.isOwned c.entry)
  answer : c.since = 0 → ∀ inRuntime, w.answer (.poll inRuntime place) =
    if w.claimsOn c.entry = [] then .result (c.feed.options.policy.resolve (w.registry.slot c.entry).state)
    else .pending

theorem Ready.inLine (ready : w.Ready) {place : Nat} {name : String} (there : w.calls[place]? = some (name, c)) :
    w.InLine place c where
  stands := by
    have waiting := List.mem_of_getElem? there
    obtain ⟨wait, phase, here, -, attentive⟩ := (ready.waits _ waiting).wait
    refine ⟨wait, phase, here, attentive.stands ?_ (isOwned_of_call waiting)⟩
    rw [here]
    exact ready.claimsOn_ne_nil c.entry
  answer := by
    intro any inRuntime
    have waiting := List.mem_of_getElem? there
    have polls := polls_waiting inRuntime (ready.calls _ waiting) (ready.waits _ waiting)
    simp only [World.answer, there]
    exact answer_of_load polls ready.toIntact any

/-- Nobody who waits misses the end of a fetch, and nobody waits without one. This holds of every wait, however the
accesses of many threads are mixed and however the slot was claimed, marked and settled between two polls; and of every
call of a world after any turns. A load has its state at the first poll at which no claim is on its slot. -/
theorem waits_end :
    (∀ {α : Type} {entry : EntryId} {o : Owned α} {w : Wait}, Awaited entry o w →
      w.entry = entry ∧ w.Stands o.shared.registry (o.shared.live entry ≠ []) (o.isOwned entry) ∧
        ∀ h ∈ o.shared.live entry, ∀ a p, a.ends h = true → o.step (.access a) = some p →
          ∀ rx, w.receiver = some rx → rx.isBehind p.shared.registry = true) ∧
    (∀ (network : Http.Network) (caches : Nat) (feeds : List Feed) (turns : List Turn) (place : Nat) (name : String)
        (c : Call), ((start network caches feeds).turns turns).calls[place]? = some (name, c) →
      ((start network caches feeds).turns turns).InLine place c) ∧
    ∀ (network : Http.Network) (caches : Nat) (feeds : List Feed) (turns : List Turn) (inRuntime : Bool) (number : Nat)
        (name : String) (feed : Feed), ((start network caches feeds).turns turns).feeds[number]? = some feed →
      let found := ((start network caches feeds).turns turns).entry feed
      let started := (found.2.startFetch inRuntime feed found.1).2
      ((start network caches feeds).turns turns).answer (.command inRuntime (.load number name)) =
        if started.claimsOn found.1 = [] then
          .result (feed.options.policy.resolve (started.registry.slot found.1).state)
        else .pending := by
  refine ⟨?_, ?_, ?_⟩
  · intro α entry o w awaited
    obtain ⟨here, stands⟩ := awaited.stands
    exact ⟨here, stands, fun h live a p ends done => awaited.wakes live ends done⟩
  · intro network caches feeds turns place name c there
    exact ((ready_start network caches feeds).turns turns).inLine there
  · intro network caches feeds turns inRuntime number name feed there
    have ready := (ready_start network caches feeds).turns turns
    obtain ⟨intact, made⟩ := ready.toIntact.entry feed
    have polls := polls_starting (c := .load feed _) inRuntime made rfl
    simp only [World.answer, World.step, there, withHandle, World.load, answer_begin]
    exact answer_of_load polls (intact.startFetch made inRuntime feed) rfl

/-- A load waits for its fetch, also if it is polled outside a runtime. A wait ends when the claim is given up, also if
the key was removed before. -/
theorem waits_end_if_given_up :
    (start (.answering []) 1 [.onLocalhost .default]).answer (.command true (.load 0 "first")) = .pending ∧
    ((start (.answering []) 1 [.onLocalhost .default]).turns [.command true (.load 0 "first")]).answer (.poll false 0) =
      .pending ∧
    ∃ (o : Owned (List Channel)) (w : Wait), Awaited 0 o w ∧ w.receiver = some ⟨0, 1⟩ ∧
      w.poll o.shared.registry = .done ⟨.pending, false, true, 0, 0⟩ := by
  let claim : Held := ⟨0, ⟨0, 0⟩, false⟩
  let fetching : Owned (List Channel) :=
    ⟨⟨⟨[⟨⟨.pending, true, false, 0, 0⟩, 1⟩], [[("channels", 0)]]⟩, [claim], 1⟩, [0]⟩
  let forgotten : Owned (List Channel) := ⟨⟨⟨[⟨⟨.pending, true, false, 0, 0⟩, 1⟩], [[]]⟩, [claim], 1⟩, [0]⟩
  let givenUp : Owned (List Channel) := ⟨⟨⟨[⟨⟨.pending, false, true, 0, 0⟩, 2⟩], [[]]⟩, [], 1⟩, [0]⟩
  have ran : (Owned.start 1).run [.access (.claim claim), .access (.add 0 "channels")] = some fetching := rfl
  have waits : Awaited 0 fetching ⟨0, some ⟨0, 1⟩⟩ := (Awaited.begun ran (List.mem_singleton.mpr rfl)).polled rfl
  have removed : Awaited 0 forgotten ⟨0, some ⟨0, 1⟩⟩ :=
    waits.goes (d := .access (.remove 0 "channels")) rfl (List.mem_singleton.mpr rfl)
  have dropped : Awaited 0 givenUp ⟨0, some ⟨0, 1⟩⟩ :=
    removed.goes (d := .access (.drop claim)) rfl (List.mem_singleton.mpr rfl)
  refine ⟨?_, ?_, givenUp, ⟨0, some ⟨0, 1⟩⟩, dropped, rfl, ?_⟩
  · exact (waits_end.2.2 (.answering []) 1 [.onLocalhost .default] [] true 0 "first" _ rfl).trans rfl
  · exact ((waits_end.2.1 (.answering []) 1 [.onLocalhost .default] [.command true (.load 0 "first")] 0 "first" _
      rfl).answer rfl false).trans rfl
  · exact (waits_end.1 dropped).2.1.ends fun live => live rfl

end World

end ChannelFeed
