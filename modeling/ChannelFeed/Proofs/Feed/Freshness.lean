import ChannelFeed.Proofs.Feed.CallAccess
import ChannelFeed.Proofs.Sharing.History

/-!
# How fresh a result is

A call that asks anew marks its slot and wants what a fetch brings that began since. If it finds the slot at rest and
too old, it tries to start a fetch; if it may not, it looks whether someone else has one on its way, and if there is
none it ends with what it had found. These are three accesses. Others can take the right to fetch between the first
two and be done before the third: the call then ends with a result that is older than itself, although a new one is
there. In no other way can it.
-/
namespace ChannelFeed

open Cache

/-- An access to what is shared, made by the call or by others. -/
structure Move where
  isOwn : Bool
  access : Access (List Channel)

namespace Move

def accesses (moves : List Move) : List (Access (List Channel)) := moves.map (·.access)

/-- The accesses that the call made itself. -/
def own (moves : List Move) : List (Access (List Channel)) := accesses (moves.filter (·.isOwn))

theorem own_append (later moves : List Move) : own (later ++ moves) = own later ++ own moves := by
  simp [own, accesses]

theorem own_eq_nil {moves : List Move} (others : ∀ m ∈ moves, m.isOwn = false) : own moves = [] := by
  have none : moves.filter (·.isOwn) = [] := by
    rw [List.filter_eq_nil_iff]
    intro m there
    simp [others m there]
  rw [own, none]
  rfl

end Move

/-- A call goes on from a point of a run by accesses of its own, each within a runtime, between which others make
theirs. What its own do is what `Call.access` does, by `Call.step_nextAccess`. The newest move comes first. -/
inductive Among (s : Shared (List Channel)) (c : Call) :
    List Move → Shared (List Channel) → Polled Call ChannelState → Prop where
  | start : Among s c [] s (.pending c)
  | other {moves : List Move} {t u : Shared (List Channel)} {d : Call} {a : Access (List Channel)} :
    Among s c moves t (.pending d) → t.step a = some u → Among s c (⟨false, a⟩ :: moves) u (.pending d)
  | own {moves : List Move} {t u : Shared (List Channel)} {d : Call} :
    Among s c moves t (.pending d) → t.step (d.nextAccess t) = some u →
      Among s c (⟨true, d.nextAccess t⟩ :: moves) u (d.access true t.registry).1.polled

/-- The call was overtaken after it had seen some moves: it looked at the slot last, others took a claim, the call was
refused one, and the claim of the others was ended before the call made its last access. -/
def Overtaken (entry : EntryId) (moves seen : List Move) : Prop :=
  ∃ (late between earlier : List Move) (h : Held),
    moves = ⟨true, .read⟩ :: (late ++ ⟨true, .refuse entry⟩ :: (between ++ seen)) ∧
      seen = ⟨true, .read⟩ :: earlier ∧ (∀ m ∈ late ++ between, m.isOwn = false) ∧
      ⟨false, .claim h⟩ ∈ between ∧ h.claim.entry = entry ∧ ∃ m ∈ late ++ between, m.access.ends h = true

theorem Among.run {s t : Shared (List Channel)} {c : Call} {moves : List Move} {p : Polled Call ChannelState}
    (among : Among s c moves t p) : s.run (Move.accesses moves) = some t := by
  induction among with
  | start => rfl
  | other before made ih => exact Shared.run_cons.mpr ⟨_, ih, made⟩
  | own before made ih => exact Shared.run_cons.mpr ⟨_, ih, made⟩

/-- At the end of some moves, the last of which is the call's own look, the slot was at rest and too old. -/
structure FoundOld (s : Shared (List Channel)) (entry : EntryId) (since : Nat) (found : Slot (List Channel))
    (seen : List Move) (m : Shared (List Channel)) : Prop where
  looked : ∃ earlier, seen = ⟨true, .read⟩ :: earlier
  run : s.run (Move.accesses seen) = some m
  same : found = m.registry.slot entry
  idle : found.isFetching = false
  old : found.settledGeneration < since

/-- What the moves of a call come to in each of its phases. -/
def Arrived (s : Shared (List Channel)) (entry : EntryId) (since : Nat) (moves : List Move) : Call.Phase → Prop
  | .starting => Move.own moves = []
  | .waiting wait => wait.entry = entry ∧ ∀ rest, Move.own moves ≠ .refuse entry :: .read :: rest
  | .retrying found =>
    ∃ between seen m, moves = between ++ seen ∧ (∀ m ∈ between, m.isOwn = false) ∧
      FoundOld s entry since found seen m
  | .checking found =>
    ∃ late between seen m n, moves = late ++ ⟨true, .refuse entry⟩ :: (between ++ seen) ∧
      (∀ m ∈ late ++ between, m.isOwn = false) ∧ FoundOld s entry since found seen m ∧
      m.run (Move.accesses between) = some n ∧ (n.registry.slot entry).canClaim = false

section
variable {s t u : Shared (List Channel)} {c d next : Call} {entry : EntryId} {since : Nat} {moves : List Move}

theorem Arrived.other {phase : Call.Phase} (arrived : Arrived s entry since moves phase)
    (a : Access (List Channel)) : Arrived s entry since (⟨false, a⟩ :: moves) phase := by
  cases phase with
  | starting => exact arrived
  | waiting wait => exact arrived
  | retrying found =>
    obtain ⟨between, seen, m, rfl, others, old⟩ := arrived
    exact ⟨⟨false, a⟩ :: between, seen, m, rfl, List.forall_mem_cons.mpr ⟨rfl, others⟩, old⟩
  | checking found =>
    obtain ⟨late, between, seen, m, n, rfl, others, old, ran, cannot⟩ := arrived
    exact ⟨⟨false, a⟩ :: late, between, seen, m, n, rfl, List.forall_mem_cons.mpr ⟨rfl, others⟩, old, ran, cannot⟩

/-- A call that has asked for the right to fetch: it was granted and recorded, or was refused. -/
theorem Call.ask_cases (s : Shared (List Channel)) (entry : EntryId) :
    (∃ h r, Call.ask s entry = .claim h ∧ s.registry.claim? entry = some (h.claim, r)) ∨
      (Call.ask s entry = .refuse entry ∧ s.registry.claim? entry = none) := by
  unfold Call.ask
  cases asked : s.registry.claim? entry with
  | none => exact .inr ⟨rfl, rfl⟩
  | some granted => exact .inl ⟨_, granted.2, rfl, rfl⟩

theorem Arrived.own (ran : s.run (Move.accesses moves) = some t) (on : d.entry = entry) (wants : d.since = since)
    (arrived : Arrived s entry since moves d.phase) (made : t.step (d.nextAccess t) = some u)
    (goes : (d.access true t.registry).1.polled = .pending next) :
    Arrived s entry since (⟨true, d.nextAccess t⟩ :: moves) next.phase := by
  have newest : Move.own (⟨true, d.nextAccess t⟩ :: moves) = d.nextAccess t :: Move.own moves := rfl
  subst on wants
  unfold Call.access Call.claim? at goes
  unfold Call.nextAccess at made newest ⊢
  cases phase : d.phase with
  | starting =>
    simp only [phase, if_true] at goes arrived newest made ⊢
    have waits : next.phase = .waiting (.start d.entry) := by
      split at goes <;> (cases goes; rfl)
    rw [waits]
    refine ⟨rfl, ?_⟩
    rw [newest, arrived]
    intro rest same
    cases (List.cons.inj same).2
  | waiting wait =>
    simp only [phase] at goes arrived newest made ⊢
    obtain ⟨here, -⟩ := arrived
    split at goes
    · next rest waits =>
      cases goes
      refine ⟨(Wait.poll_pending waits).trans here, ?_⟩
      intro rest same
      rw [newest] at same
      cases (List.cons.inj same).1
    · next slot found =>
      obtain ⟨same, idle⟩ := Wait.poll_done found
      split at goes
      · cases goes
      · next old =>
        cases goes
        refine ⟨[], _, u, rfl, fun m there => (nomatch there), ⟨moves, rfl⟩, ?_, ?_, idle, Nat.lt_of_not_le old⟩
        · exact Shared.run_cons.mpr ⟨t, ran, made⟩
        · rw [same, here, Option.some.inj made]
  | retrying found =>
    simp only [phase, if_true] at goes arrived newest made ⊢
    rcases Call.ask_cases t d.entry with ⟨h, r, asked, granted⟩ | ⟨asked, refused⟩
    · rw [asked] at newest ⊢
      rw [granted] at goes
      cases goes
      refine ⟨rfl, ?_⟩
      intro rest same
      rw [newest] at same
      cases (List.cons.inj same).1
    · rw [asked] at newest made ⊢
      rw [refused] at goes
      cases goes
      obtain ⟨between, seen, m, rfl, others, old⟩ := arrived
      have parts : Move.accesses (between ++ seen) = Move.accesses between ++ Move.accesses seen := List.map_append ..
      rw [parts] at ran
      obtain ⟨m', first, rest⟩ := Shared.run_append.mp ran
      obtain rfl : m = m' := Option.some.inj (old.run.symm.trans first)
      exact ⟨[], between, seen, m, t, rfl, others, old, rest, (Shared.step_refuse.mp made).1⟩
  | checking found =>
    simp only [phase] at goes arrived newest made ⊢
    split at goes
    · cases goes
      refine ⟨rfl, ?_⟩
      intro rest same
      rw [newest] at same
      cases (List.cons.inj same).1
    · cases goes

theorem arrived_among (among : Among s c moves t (.pending d)) (begun : c.phase = .starting) :
    d.entry = c.entry ∧ d.since = c.since ∧ Arrived s c.entry c.since moves d.phase := by
  generalize going : Polled.pending d = p at among
  induction among generalizing d with
  | start =>
    cases going
    rw [begun]
    exact ⟨rfl, rfl, rfl⟩
  | other before made ih =>
    cases going
    obtain ⟨on, wants, arrived⟩ := ih rfl
    exact ⟨on, wants, arrived.other _⟩
  | own before made ih =>
    obtain ⟨on, wants, arrived⟩ := ih rfl
    obtain ⟨-, same, still⟩ := Call.same_access going.symm
    exact ⟨same.trans on, still.trans wants, arrived.own before.run on wants made going.symm⟩

/-- A call ends with a look at its slot when it is at rest: either it is new enough and the result, or the call had
found it too old before. -/
theorem Among.ending {state : ChannelState} (among : Among s c moves t (.done state)) (begun : c.phase = .starting) :
    ∃ earlier, moves = ⟨true, .read⟩ :: earlier ∧ s.run (Move.accesses earlier) = some t ∧
      (t.registry.slot c.entry).isFetching = false ∧
      ((c.since ≤ (t.registry.slot c.entry).settledGeneration ∧ (t.registry.slot c.entry).state = state ∧
          ∀ rest, Move.own earlier ≠ .refuse c.entry :: .read :: rest) ∨
        ∃ found, Arrived s c.entry c.since earlier (.checking found) ∧ found.state = state) := by
  generalize done : Polled.done state = p at among
  cases among with
  | start => cases done
  | other before made => cases done
  | @own earlier t' t d before made =>
    obtain ⟨on, wants, arrived⟩ := arrived_among before begun
    unfold Call.access at done
    unfold Call.nextAccess at made ⊢
    cases phase : d.phase with
    | starting =>
      simp only [phase] at done
      split at done <;> cases done
    | retrying found =>
      simp only [phase] at done
      split at done <;> cases done
    | waiting wait =>
      simp only [phase] at done arrived made ⊢
      obtain rfl : t' = t := Option.some.inj made
      refine ⟨earlier, rfl, before.run, ?_⟩
      split at done
      · cases done
      · next slot found =>
        obtain ⟨rfl, idle⟩ := Wait.poll_done found
        obtain ⟨here, newest⟩ := arrived
        rw [here] at idle done
        split at done
        · next enough =>
          cases done
          exact ⟨idle, .inl ⟨wants ▸ enough, rfl, newest⟩⟩
        · cases done
    | checking found =>
      simp only [phase] at done arrived made ⊢
      obtain rfl : t' = t := Option.some.inj made
      refine ⟨earlier, rfl, before.run, ?_⟩
      split at done
      · cases done
      · next idle =>
        cases done
        rw [on] at idle
        exact ⟨Bool.eq_false_iff.mpr idle, .inr ⟨found, arrived, rfl⟩⟩

/-- A slot that was found too old can be claimed, if it was marked for what is wanted of it. -/
theorem FoundOld.canClaim {caches : Nat} {past : List (Access (List Channel))} {found : Slot (List Channel)}
    {seen : List Move} (ran : (Shared.start caches).run past = some s) (wanted : since ≤ marks entry past)
    (old : FoundOld s entry since found seen t) : (t.registry.slot entry).canClaim = true := by
  have whole := Shared.run_append.mpr ⟨s, ran, old.run⟩
  have told := told_run entry whole
  have behind : (t.registry.slot entry).settledGeneration < (t.registry.slot entry).generation := by
    have more : marks entry past ≤ marks entry (Move.accesses seen ++ past) := by
      rw [marks, marks, List.countP_append]
      exact Nat.le_add_left _ _
    rw [told.generation, ← old.same]
    exact Nat.lt_of_lt_of_le old.old (Nat.le_trans wanted more)
  have idle := old.idle
  rw [old.same] at idle
  simp [Slot.canClaim, idle, told.isStale.mpr (.inl behind)]

/-- A call that is refused a fetch and then finds none on its way was overtaken. -/
theorem overtaken_of_checking {caches : Nat} {past : List (Access (List Channel))} {found : Slot (List Channel)}
    (ran : (Shared.start caches).run past = some s) (wanted : since ≤ marks entry past)
    (arrived : Arrived s entry since moves (.checking found)) (on : s.run (Move.accesses moves) = some t)
    (idle : (t.registry.slot entry).isFetching = false) :
    ∃ seen m, Overtaken entry (⟨true, .read⟩ :: moves) seen ∧ FoundOld s entry since found seen m := by
  obtain ⟨late, between, seen, m, n, rfl, others, old, refused, cannot⟩ := arrived
  have sound : m.Sound := ((Shared.sound_start caches).run ran).run old.run
  obtain ⟨h, taken, claimed⟩ := Shared.claimed_of_canClaim sound refused (old.canClaim ran wanted) cannot
  -- The claim was taken between the look and the refusal, and nobody holds it at the end.
  have rest : m.run (Move.accesses (late ++ ⟨true, .refuse entry⟩ :: between)) = some t := by
    have parts : Move.accesses (late ++ ⟨true, .refuse entry⟩ :: (between ++ seen)) =
        Move.accesses (late ++ ⟨true, .refuse entry⟩ :: between) ++ Move.accesses seen := by
      simp [Move.accesses]
    rw [parts] at on
    obtain ⟨m', first, rest⟩ := Shared.run_append.mp on
    rw [Option.some.inj (old.run.symm.trans first)]
    exact rest
  have there : .claim h ∈ Move.accesses (late ++ ⟨true, .refuse entry⟩ :: between) := by
    simp only [Move.accesses, List.map_append, List.map_cons, List.mem_append, List.mem_cons]
    exact .inr (.inr taken)
  have gone : h ∉ t.live entry := by
    rw [(sound.run rest).none_live idle]
    exact List.not_mem_nil
  obtain ⟨a, made, ends⟩ := Shared.ended_of_taken rest there claimed gone
  obtain ⟨x, within, rfl⟩ := List.mem_map.mp made
  obtain ⟨y, during, same⟩ := List.mem_map.mp taken
  have another : y.isOwn = false := others y (List.mem_append_right _ during)
  obtain ⟨earlier, looked⟩ := old.looked
  refine ⟨seen, m, ⟨late, between, earlier, h, rfl, looked, others, ?_, claimed, x, ?_, ends⟩, old⟩
  · rw [← same, ← another]
    exact during
  · rcases List.mem_append.mp within with before | after
    · exact List.mem_append_left _ before
    · rcases List.mem_cons.mp after with rfl | after
      · cases ends
      · exact List.mem_append_right _ after

/-- The own moves of a call that was overtaken end with a look, a refusal and a look. -/
theorem Overtaken.own {seen : List Move} (overtaken : Overtaken entry (⟨true, .read⟩ :: moves) seen) :
    ∃ rest, Move.own moves = .refuse entry :: .read :: rest := by
  obtain ⟨late, between, earlier, h, same, rfl, others, -, -, -⟩ := overtaken
  obtain ⟨-, rfl⟩ := List.cons.inj same
  refine ⟨Move.own earlier, ?_⟩
  have none : Move.own late = [] := Move.own_eq_nil fun m there => others m (List.mem_append_left _ there)
  have none' : Move.own between = [] := Move.own_eq_nil fun m there => others m (List.mem_append_right _ there)
  rw [Move.own_append, none, List.nil_append]
  change .refuse entry :: Move.own (between ++ ⟨true, .read⟩ :: earlier) = _
  rw [Move.own_append, none']
  rfl

end

/-- A call that asks anew ends, unless it was overtaken, with the state that was settled last, by a fetch that began
since the call marked the slot. If it was overtaken it ends with what it saw before that, and the fetch behind it
began before the mark. -/
theorem refetch_fresh_unless_overtaken {caches : Nat} {past : List (Access (List Channel))}
    {s₀ s t : Shared (List Channel)} {feed : Feed} {entry : EntryId} {moves : List Move} {state : ChannelState}
    (ran : (Shared.start caches).run past = some s₀) (marked : s₀.step (.mark entry) = some s)
    (among : Among s (.refetch feed entry (s₀.registry.markStale entry).1) moves t (.done state)) :
    ((¬∃ seen, Overtaken entry moves seen) ∧
        (s₀.registry.markStale entry).1 ≤ (t.registry.slot entry).settledGeneration ∧
        (t.registry.slot entry).state = state ∧
        ∃ h, lastSettlement entry (Move.accesses moves ++ .mark entry :: past) = some (h, state) ∧
          .claim h ∈ Move.accesses moves) ∨
      ∃ seen m, Overtaken entry moves seen ∧ s.run (Move.accesses seen) = some m ∧
        (m.registry.slot entry).settledGeneration < (s₀.registry.markStale entry).1 ∧
        (m.registry.slot entry).state = state ∧
        ∀ h left, lastSettlement entry (Move.accesses seen ++ .mark entry :: past) = some (h, left) →
          left = state ∧ .claim h ∈ past := by
  have begun : (Shared.start caches).run (.mark entry :: past) = some s := Shared.run_cons.mpr ⟨s₀, ran, marked⟩
  have since : (s₀.registry.markStale entry).1 = marks entry (.mark entry :: past) := by
    rw [← (told_run entry begun).generation, (Shared.step_mark.mp marked).2]
    rfl
  obtain ⟨earlier, rfl, on, idle, fresh | ⟨found, arrived, rfl⟩⟩ := among.ending rfl
  · obtain ⟨enough, rfl, newest⟩ := fresh
    refine .inl ⟨?_, enough, rfl, ?_⟩
    · rintro ⟨seen, overtaken⟩
      obtain ⟨rest, same⟩ := overtaken.own
      exact newest rest same
    · have told := told_run entry (Shared.run_append.mpr ⟨s, begun, among.run⟩)
      have later : marks entry (.mark entry :: past) ≤ (t.registry.slot entry).settledGeneration := since ▸ enough
      rw [told.settledGeneration, marks_le_untilFetched_iff] at later
      obtain ⟨h, last, settled, taken⟩ := later
      have left : (t.registry.slot entry).state = last := by rw [told.state, stateLeft, settled]
      exact ⟨h, left.symm ▸ settled, taken⟩
  · obtain ⟨seen, m, overtaken, old⟩ := overtaken_of_checking begun (Nat.le_of_eq since) arrived on idle
    have told := told_run entry (Shared.run_append.mpr ⟨s, begun, old.run⟩)
    refine .inr ⟨seen, m, overtaken, old.run, old.same ▸ old.old, congrArg Slot.state old.same.symm, ?_⟩
    intro h left settled
    have earlier : ¬marks entry (.mark entry :: past) ≤ (m.registry.slot entry).settledGeneration := by
      rw [← since, ← old.same]
      exact Nat.not_le.mpr old.old
    rw [told.settledGeneration, marks_le_untilFetched_iff] at earlier
    refine ⟨?_, ?_⟩
    · rw [old.same, told.state, stateLeft, settled]
    · rcases List.mem_append.mp (told.settledBy h left settled).2 with after | before
      · exact absurd ⟨h, left, settled, after⟩ earlier
      · rcases List.mem_cons.mp before with same | before
        · cases same
        · exact before

namespace OldResult

def feed : Feed := ⟨⟨⟨⟨"http".toList, none, false, .listed [[]], none, none⟩, rfl⟩, none⟩, .default, 0⟩

/-- The fetch that was on its way when the call was made. -/
def before : Held := ⟨0, ⟨0, 0⟩, false⟩

/-- The fetch of others that begins after the call has found the slot too old. -/
def after : Held := ⟨1, ⟨0, 1⟩, false⟩

def past : List (Access (List Channel)) := [.claim before, .add 0 "channels"]

/-- The call is refused a fetch, sees the one on its way fail, is refused another one because others were faster, and
finds that theirs is done. -/
def moves : List Move :=
  [⟨true, .read⟩, ⟨false, .settle after (.ready [])⟩, ⟨true, .refuse 0⟩, ⟨false, .claim after⟩, ⟨true, .read⟩,
    ⟨false, .settle before (.failed "offline")⟩, ⟨true, .refuse 0⟩]

/-- What is shared once a slot looks so, with the claims given in someone's hands. -/
def shared (version : Nat) (slot : Slot (List Channel)) (held : List Held) (taken : Nat) : Shared (List Channel) :=
  ⟨⟨[⟨slot, version⟩], [[("channels", 0)]]⟩, held, taken⟩

theorem begun : (Shared.start 1).run past = some (shared 1 ⟨.pending, true, false, 0, 0⟩ [before] 1) := rfl

theorem marked : (shared 1 ⟨.pending, true, false, 0, 0⟩ [before] 1).step (.mark 0) =
    some (shared 2 ⟨.pending, true, true, 1, 0⟩ [before] 1) := rfl

theorem among :
    Among (shared 2 ⟨.pending, true, true, 1, 0⟩ [before] 1) (.refetch feed 0 1) moves
      (shared 5 ⟨.ready [], false, false, 1, 1⟩ [before.spent, after.spent] 2) (.done (.failed "offline")) := by
  let found : Slot (List Channel) := ⟨.failed "offline", false, true, 1, 0⟩
  have refused := Among.own .start
    (rfl : (shared 2 ⟨.pending, true, true, 1, 0⟩ [before] 1).step ((Call.refetch feed 0 1).nextAccess _) = some _)
  have ended := refused.other (rfl : Shared.step _ (.settle before (.failed "offline")) =
    some (shared 3 found [before.spent] 1))
  have looked := ended.own rfl
  have claimed := looked.other (rfl : Shared.step _ (.claim after) =
    some (shared 4 { found with isFetching := true } [before.spent, after] 2))
  have refusedAgain := claimed.own rfl
  have settled := refusedAgain.other (rfl : Shared.step _ (.settle after (.ready [])) =
    some (shared 5 ⟨.ready [], false, false, 1, 1⟩ [before.spent, after.spent] 2))
  exact settled.own rfl

end OldResult

/-- A call that asks anew can end with a state that no fetch left that began since it marked the slot. -/
theorem refetch_can_be_old :
    ¬∀ (caches : Nat) (past : List (Access (List Channel))) (s₀ s t : Shared (List Channel)) (feed : Feed)
        (entry : EntryId) (moves : List Move) (state : ChannelState),
      (Shared.start caches).run past = some s₀ → s₀.step (.mark entry) = some s →
        Among s (.refetch feed entry (s₀.registry.markStale entry).1) moves t (.done state) →
          ∃ h, .claim h ∈ Move.accesses moves ∧ .settle h state ∈ Move.accesses moves := by
  intro always
  obtain ⟨h, claimed, settled⟩ := always 1 OldResult.past _ _ _ OldResult.feed 0 OldResult.moves _
    OldResult.begun OldResult.marked OldResult.among
  have new : h = OldResult.after := by simpa [OldResult.moves, Move.accesses] using claimed
  have old : h = OldResult.before := by simpa [OldResult.moves, Move.accesses] using settled
  rw [new] at old
  exact absurd old (by decide)

/-- In that run the call was overtaken, and its result is what was there before. -/
theorem overtaken_in_oldResult :
    ∃ seen m, Overtaken 0 OldResult.moves seen ∧
      (OldResult.shared 2 ⟨.pending, true, true, 1, 0⟩ [OldResult.before] 1).run (Move.accesses seen) = some m ∧
      (m.registry.slot 0).settledGeneration < 1 ∧ (m.registry.slot 0).state = .failed "offline" := by
  rcases refetch_fresh_unless_overtaken OldResult.begun OldResult.marked OldResult.among with
    ⟨-, -, new, -⟩ | ⟨seen, m, overtaken, run, old, same, -⟩
  · cases new
  · exact ⟨seen, m, overtaken, run, old, same⟩

end ChannelFeed
