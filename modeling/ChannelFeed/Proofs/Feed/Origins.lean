import ChannelFeed.Proofs.Feed.Freshness

/-!
# Origins

Where the state comes from that a call is given, whatever others do between its accesses: some fetch of its slot settled
it so, or nothing is known yet and a fetch of its slot was dropped.
-/
namespace ChannelFeed

open Cache

/-- What a state that a call is given is owed to. -/
inductive Owed (entry : EntryId) (past : List (Access (List Channel))) : ChannelState → Prop where
  | settled {h : Held} {state : ChannelState} : h.claim.entry = entry → .settle h state ∈ past → Owed entry past state
  | dropped {h : Held} : h.claim.entry = entry → h.isSettled = false → .drop h ∈ past → Owed entry past .pending

/-- Whether a slot was ever claimed. -/
def EverClaimed (entry : EntryId) (past : List (Access (List Channel))) : Prop :=
  ∃ h : Held, h.claim.entry = entry ∧ .claim h ∈ past

section
variable {entry : EntryId} {caches : Nat} {past later : List (Access (List Channel))} {s t : Shared (List Channel)}

theorem Owed.mono {state : ChannelState} (owed : Owed entry past state) (more : past ⊆ later) :
    Owed entry later state := by
  cases owed with
  | settled on there => exact .settled on (more there)
  | dropped on unsettled there => exact .dropped on unsettled (more there)

theorem EverClaimed.mono (claimed : EverClaimed entry past) (more : past ⊆ later) : EverClaimed entry later := by
  obtain ⟨h, on, there⟩ := claimed
  exact ⟨h, on, more there⟩

theorem settlement?_eq_some {a : Access (List Channel)} {h : Held} {state : ChannelState}
    (settles : a.settlement? entry = some (h, state)) : a = .settle h state ∧ h.claim.entry = entry := by
  cases a with
  | settle other left =>
    obtain ⟨on, same⟩ := Option.ite_none_right_eq_some.mp settles
    cases same
    exact ⟨rfl, on⟩
  | _ => cases settles

theorem everClaimed_of_not_canClaim (ran : (Shared.start caches).run past = some s)
    (cannot : (s.registry.slot entry).canClaim = false) : EverClaimed entry past := by
  have told := told_run entry ran
  cases busy : (s.registry.slot entry).isFetching with
  | true =>
    obtain ⟨h, only⟩ := ((Shared.sound_start caches).run ran).some_live busy
    have live : h ∈ s.live entry := only ▸ List.mem_singleton.mpr rfl
    exact ⟨h, (Shared.mem_live.mp live).2.2, told.taken h live⟩
  | false =>
    have known : (s.registry.slot entry).state.isPending = false := by
      simp only [Slot.canClaim, busy, Bool.not_false, Bool.true_and, Bool.or_eq_false_iff] at cannot
      exact cannot.1
    rw [told.state, stateLeft] at known
    cases last : lastSettlement entry past with
    | none =>
      rw [last] at known
      cases known
    | some settled =>
      obtain ⟨a, -, settles⟩ := List.exists_of_findSome?_eq_some last
      exact ⟨settled.1, (settlement?_eq_some settles).2, (told.settledBy settled.1 settled.2 last).2⟩

theorem owed_of_idle (ran : (Shared.start caches).run past = some s)
    (idle : (s.registry.slot entry).isFetching = false) (claimed : EverClaimed entry past) :
    Owed entry past (s.registry.slot entry).state := by
  rw [(told_run entry ran).state, stateLeft]
  cases last : lastSettlement entry past with
  | some settled =>
    obtain ⟨a, there, settles⟩ := List.exists_of_findSome?_eq_some last
    obtain ⟨rfl, on⟩ := settlement?_eq_some settles
    exact .settled on there
  | none =>
    obtain ⟨h, on, taken⟩ := claimed
    have gone : h ∉ s.live entry := by
      rw [((Shared.sound_start caches).run ran).none_live idle]
      exact List.not_mem_nil
    obtain ⟨a, there, ends⟩ := Shared.ended_of_taken ran taken on gone
    cases a with
    | settle other state =>
      obtain rfl := beq_iff_eq.mp ends
      have none : (Access.settle other state).settlement? entry = none := List.findSome?_eq_none_iff.mp last _ there
      rw [Access.settlement?, if_pos on] at none
      cases none
    | drop other =>
      obtain rfl := beq_iff_eq.mp ends
      obtain ⟨m, n, made⟩ := Shared.exists_step_of_mem ran taken
      exact .dropped on (by rw [(Shared.step_claim.mp made).2.2.1]) there
    | _ => cases ends

/-- What holds of a call in each of its phases. -/
def Call.Phase.Owes (entry : EntryId) (past : List (Access (List Channel))) : Call.Phase → Prop
  | .starting => True
  | .waiting wait => wait.entry = entry ∧ EverClaimed entry past
  | .retrying found | .checking found => Owed entry past found.state

theorem Call.Phase.Owes.mono {phase : Call.Phase} (owes : phase.Owes entry past) (more : past ⊆ later) :
    phase.Owes entry later := by
  cases phase with
  | starting => trivial
  | waiting wait => exact ⟨owes.1, owes.2.mono more⟩
  | retrying found => exact Owed.mono owes more
  | checking found => exact Owed.mono owes more

/-- What holds of what a call comes to. -/
def Call.Owes (entry : EntryId) (past : List (Access (List Channel))) : Polled Call ChannelState → Prop
  | .pending d => d.entry = entry ∧ d.phase.Owes entry past
  | .done state => Owed entry past state

/-- A call that has asked for the right to fetch knows that the slot was claimed, by itself or by others. -/
theorem Call.everClaimed_of_ask (ran : (Shared.start caches).run past = some s) :
    EverClaimed entry (Call.ask s entry :: past) := by
  rcases Call.ask_cases s entry with ⟨h, r, asked, granted⟩ | ⟨asked, refused⟩
  · obtain ⟨-, same, -⟩ := Registry.claim?_eq_some.mp granted
    refine ⟨h, ?_, asked ▸ List.mem_cons_self⟩
    rw [same]
  · exact (everClaimed_of_not_canClaim ran (Registry.claim?_eq_none.mp refused)).mono (List.subset_cons_self _ _)

theorem Call.owes_access {d : Call} (ran : (Shared.start caches).run past = some s)
    (owes : d.phase.Owes d.entry past) :
    Call.Owes d.entry (d.nextAccess s :: past) (d.access true s.registry).1.polled := by
  have more : past ⊆ d.nextAccess s :: past := List.subset_cons_self _ _
  have asks : EverClaimed d.entry (Call.ask s d.entry :: past) := Call.everClaimed_of_ask ran
  unfold Call.access Call.claim? Call.nextAccess
  unfold Call.nextAccess at more
  cases phase : d.phase with
  | starting => cases asked : s.registry.claim? d.entry <;> exact ⟨rfl, rfl, asks⟩
  | waiting wait =>
    rw [phase] at owes more
    obtain ⟨here, claimed⟩ : wait.entry = d.entry ∧ _ := owes
    dsimp only
    cases looked : wait.poll s.registry with
    | pending rest => exact ⟨rfl, (Wait.poll_pending looked).trans here, claimed.mono more⟩
    | done slot =>
      obtain ⟨rfl, idle⟩ := Wait.poll_done looked
      rw [here] at idle ⊢
      have owed := (owed_of_idle ran idle claimed).mono more
      dsimp only
      by_cases enough : d.since ≤ (s.registry.slot d.entry).settledGeneration
      · rw [if_pos enough]
        exact owed
      · rw [if_neg enough]
        exact ⟨rfl, owed⟩
  | retrying found =>
    rw [phase] at owes more
    cases asked : s.registry.claim? d.entry with
    | none => exact ⟨rfl, Owed.mono owes more⟩
    | some granted => exact ⟨rfl, rfl, asks⟩
  | checking found =>
    rw [phase] at owes more
    dsimp only
    by_cases busy : (s.registry.slot d.entry).isFetching = true
    · rw [if_pos busy]
      have cannot : (s.registry.slot d.entry).canClaim = false := by simp [Slot.canClaim, busy]
      exact ⟨rfl, rfl, (everClaimed_of_not_canClaim ran cannot).mono more⟩
    · rw [if_neg busy]
      exact Owed.mono owes more

/-- Every state that a call is given is owed to a fetch of its slot, whatever others do between its accesses. -/
theorem Among.owes {c : Call} {moves : List Move} {p : Polled Call ChannelState} (among : Among s c moves t p)
    (ran : (Shared.start caches).run past = some s) (begun : c.phase = .starting) :
    Call.Owes c.entry (Move.accesses moves ++ past) p := by
  induction among with
  | start =>
    refine ⟨rfl, ?_⟩
    rw [begun]
    trivial
  | other before made ih => exact ⟨ih.1, ih.2.mono (List.subset_cons_self _ _)⟩
  | own before made ih =>
    obtain ⟨on, owes⟩ := ih
    rw [← on] at owes ⊢
    exact Call.owes_access (Shared.run_append.mpr ⟨s, ran, before.run⟩) owes

end

end ChannelFeed
