import ChannelFeed.Proofs.Sharing.History
import ChannelFeed.Proofs.Sharing.Replay

/-!
# How many fetches there are

A slot is fetched again only for a reason: it was marked, a fetch of it was given up, or it was settled with
nothing. Each is a reason for one fetch more. How many threads ask for the slot does not matter, nor how often they
do. What carries the count is whether another fetch is due: one is due of a slot that can be claimed, and one will
be due of a slot that was marked during the fetch on its way, however often it was.
-/
namespace ChannelFeed.Cache

variable {α : Type}

namespace Access

/-- Whether a fetch of the slot begins. -/
def begins (entry : EntryId) : Access α → Bool
  | .claim h => h.claim.entry == entry
  | _ => false

/-- Whether the slot is settled with nothing. No fetch does so, only one who took the claim by hand can. -/
def blanks (entry : EntryId) : Access α → Bool
  | .settle h state => h.claim.entry == entry && state.isPending
  | _ => false

end Access

/-- How many fetches of a slot began. -/
def fetches (entry : EntryId) (past : List (Access α)) : Nat := past.countP (·.begins entry)

/-- How many fetches of a slot were given up. -/
def abandonments (entry : EntryId) (past : List (Access α)) : Nat := past.countP (·.abandons entry)

/-- How often a slot was settled with nothing. -/
def blankings (entry : EntryId) (past : List (Access α)) : Nat := past.countP (·.blanks entry)

/-- How many fetches of a slot are due, given the claims that are live on it: one if it can be claimed, or if it was
marked since the claim was taken, so that it can be once it is settled. -/
def due (slot : Slot α) (live : List Held) : Nat :=
  if slot.isFetching then
    if live.any (·.claim.generation != slot.generation) then 1 else 0
  else if slot.canClaim then 1 else 0

theorem due_le_one (slot : Slot α) (live : List Held) : due slot live ≤ 1 := by
  unfold due
  repeat' split
  all_goals omega

section
variable {s t : Shared α} {a : Access α}

/-- A fetch begins only if one is due, and then none is until there is another reason. -/
theorem due_claimed (sound : s.Sound) {h : Held} (made : s.step (.claim h) = some t) :
    due (s.registry.slot h.claim.entry) (s.live h.claim.entry) = 1 ∧
      due (t.registry.slot h.claim.entry) (t.live h.claim.entry) = 0 := by
  obtain ⟨-, can, new, -⟩ := Shared.step_claim.mp made
  have idle := Slot.isFetching_of_canClaim can
  have current : h.claim.generation = (s.registry.slot h.claim.entry).generation := by rw [new]
  constructor
  · rw [due, idle, can]
    rfl
  · rw [Shared.slot_step sound.inside made, Shared.live_step made, Access.effect, Access.liveAfter, if_pos rfl,
      if_pos rfl, sound.none_live idle]
    simp [due, Slot.claimed, current]

theorem due_settled (sound : s.Sound) {h : Held} {state : FetchState α} (known : state.isPending = false)
    (made : s.step (.settle h state) = some t) :
    due (t.registry.slot h.claim.entry) (t.live h.claim.entry) =
      due (s.registry.slot h.claim.entry) (s.live h.claim.entry) := by
  obtain ⟨⟨holds, unsettled⟩, -⟩ := Shared.step_settle.mp made
  obtain ⟨only, busy⟩ := sound.alone (Shared.mem_live.mpr ⟨holds, unsettled, rfl⟩)
  rw [Shared.slot_step sound.inside made, Shared.live_step made, Access.effect, if_pos rfl, due, due, busy, only]
  simp [Slot.settled, Slot.canClaim, known, bne_comm]

/-- What one access adds to the fetches begun and due is accounted for by the reasons it gives. -/
theorem due_step (sound : s.Sound) (made : s.step a = some t) (entry : EntryId) :
    (if a.begins entry then 1 else 0) + due (t.registry.slot entry) (t.live entry) ≤
      due (s.registry.slot entry) (s.live entry) + (if a.marks entry then 1 else 0) +
        (if a.abandons entry then 1 else 0) + (if a.blanks entry then 1 else 0) := by
  cases on : a.concerns entry with
  | false =>
    have begins : a.begins entry = false := by
      cases a with
      | claim h => exact on
      | _ => rfl
    obtain ⟨slot, live⟩ := Shared.same_of_not_concerns sound.inside made on
    rw [begins, slot, live]
    simp only [Bool.false_eq_true, if_false]
    omega
  | true =>
    have most := due_le_one (t.registry.slot entry) (t.live entry)
    cases a with
    | claim h =>
      obtain rfl : h.claim.entry = entry := beq_iff_eq.mp on
      obtain ⟨before, after⟩ := due_claimed sound made
      simp [Access.begins, Access.marks, Access.abandons, Access.blanks, before, after]
    | mark other =>
      have marks : (Access.mark other : Access α).marks entry = true := on
      simp only [Access.begins, marks, Bool.false_eq_true, if_true, if_false]
      omega
    | drop h =>
      have abandons : (Access.drop h : Access α).abandons entry = true := on
      simp only [Access.begins, abandons, Bool.false_eq_true, if_true, if_false]
      omega
    | settle h state =>
      obtain rfl : h.claim.entry = entry := beq_iff_eq.mp on
      cases known : state.isPending with
      | true =>
        have blanks : (Access.settle h state).blanks h.claim.entry = true := by simp [Access.blanks, known]
        simp only [Access.begins, blanks, Bool.false_eq_true, if_true, if_false]
        omega
      | false =>
        rw [due_settled sound known made]
        simp only [Access.begins, Bool.false_eq_true, if_false]
        omega
    | _ => cases on

theorem due_run (sound : s.Sound) {segment : List (Access α)} (ran : s.run segment = some t) (entry : EntryId) :
    fetches entry segment + due (t.registry.slot entry) (t.live entry) ≤
      due (s.registry.slot entry) (s.live entry) + marks entry segment + abandonments entry segment +
        blankings entry segment := by
  induction segment generalizing t with
  | nil =>
    cases ran
    simp [fetches, marks, abandonments, blankings]
  | cons a segment ih =>
    obtain ⟨m, earlier, made⟩ := Shared.run_cons.mp ran
    have before := ih earlier
    have now := due_step (sound.run earlier) made entry
    simp only [fetches, marks, abandonments, blankings, List.countP_cons] at before ⊢
    omega

end

/-- In any part of a run a slot is fetched at most once more than there are reasons to: it is marked, a fetch of it
is given up, or it is settled with nothing. -/
theorem fetches_le_reasons {caches : Nat} {past segment : List (Access α)} {s t : Shared α}
    (ran : (Shared.start caches).run past = some s) (on : s.run segment = some t) (entry : EntryId) :
    fetches entry segment ≤ 1 + marks entry segment + abandonments entry segment + blankings entry segment := by
  have first := due_le_one (s.registry.slot entry) (s.live entry)
  have total := due_run ((Shared.sound_start caches).run ran) on entry
  omega

/-- Why a slot may be fetched once more. -/
inductive Reason where
  | marked
  /-- A claim on it is let go that has not settled it. -/
  | dropped
  /-- It is settled with nothing. -/
  | blanked
deriving DecidableEq

/-- The reason that an operation is to fetch its slot once more. -/
def Operation.reason? : Operation α → Option Reason
  | .mark => some .marked
  | .release => some .dropped
  | .settle _ state => if state.isPending then some .blanked else none
  | .claim => none

/-- Whether the right to fetch is asked for when it is to be had. -/
def Operation.isGranted (c : Cell α) : Operation α → Bool
  | .claim => c.slot.canClaim
  | _ => false

/-- How many fetches of a slot the operations on it begin. -/
def grants (c : Cell α) : List (Operation α) → Nat
  | [] => 0
  | operation :: rest => (if operation.isGranted c then 1 else 0) + grants (operation.on c) rest

/-- The reasons in a log to fetch a slot once more. -/
def Log.reasons (log : Log α) (entry : EntryId) : List Reason := (log.on entry).filterMap Operation.reason?

section
variable {log rest : Log α} {entry : EntryId}

theorem Log.reasons_append : reasons (log ++ rest) entry = log.reasons entry ++ rest.reasons entry := by
  rw [reasons, on_append, List.filterMap_append]
  rfl

theorem Log.reasons_singleton (operated : EntryId) (operation : Operation α) :
    reasons [(operated, operation)] entry = if operated = entry then operation.reason?.toList else [] := by
  rw [reasons, on_singleton]
  split
  · cases given : operation.reason? <;> simp [given]
  · rfl

theorem Log.reasons_cons (operated : EntryId) (operation : Operation α) :
    reasons ((operated, operation) :: log) entry =
      (if operated = entry then operation.reason?.toList else []) ++ log.reasons entry := by
  rw [← List.singleton_append, reasons_append, reasons_singleton]

theorem Log.reasons_eq_nil (none : ∀ operation, (entry, operation) ∈ log → operation.reason? = none) :
    log.reasons entry = [] := by
  rw [reasons, List.filterMap_eq_nil_iff]
  exact fun operation there => none operation (mem_on.mp there)

theorem grants_append (c : Cell α) (first rest : List (Operation α)) :
    grants c (first ++ rest) = grants c first + grants (replay c first) rest := by
  induction first generalizing c with
  | nil => exact (Nat.zero_add _).symm
  | cons operation first ih =>
    rw [List.cons_append, grants, grants, ih (operation.on c), Nat.add_assoc]
    rfl

theorem grants_on_singleton (c : Cell α) (operated : EntryId) (operation : Operation α) :
    grants c (Log.on [(operated, operation)] entry) = if operated = entry ∧ operation.isGranted c then 1 else 0 := by
  rw [Log.on_singleton]
  by_cases same : operated = entry
  · rw [if_pos same]
    simp [grants, same]
  · rw [if_neg same]
    simp [grants, same]

theorem begins_eq_grants {s t : Shared α} {a : Access α} (made : s.step a = some t) (entry : EntryId) :
    (if a.begins entry then 1 else 0) = grants (s.registry.cell entry) (Log.on a.operation?.toList entry) := by
  cases a with
  | claim h =>
    obtain ⟨-, can, -⟩ := Shared.step_claim.mp made
    rw [Access.operation?, Option.toList_some, grants_on_singleton]
    by_cases same : h.claim.entry = entry
    · have begins : (Access.claim h : Access α).begins entry = true := beq_iff_eq.mpr same
      rw [begins, if_pos rfl, if_pos ⟨same, same ▸ can⟩]
    · have not : (Access.claim h : Access α).begins entry = false := beq_eq_false_iff_ne.mpr same
      rw [not, if_neg Bool.false_ne_true, if_neg (mt And.left same)]
  | refuse other =>
    have cannot := (Shared.step_refuse.mp made).1
    rw [Access.operation?, Option.toList_some, grants_on_singleton]
    refine (if_neg ?_).symm
    rintro ⟨rfl, granted⟩
    exact Bool.false_ne_true (cannot.symm.trans granted)
  | mark other | settle h state =>
    rw [Access.operation?, Option.toList_some, grants_on_singleton]
    exact (if_neg fun both => Bool.false_ne_true both.2).symm
  | drop h =>
    rw [Access.operation?]
    cases h.isSettled with
    | true => rfl
    | false =>
      rw [if_neg Bool.false_ne_true, Option.toList_some, grants_on_singleton]
      exact (if_neg fun both => Bool.false_ne_true both.2).symm
  | _ => rfl

/-- The fetches that begin in a run are those that its log tells of. -/
theorem fetches_eq_grants {s t : Shared α} (sound : s.Sound) {segment : List (Access α)}
    (ran : s.run segment = some t) (entry : EntryId) :
    fetches entry segment = grants (s.registry.cell entry) ((Access.log segment).on entry) := by
  induction segment generalizing t with
  | nil => rfl
  | cons a segment ih =>
    obtain ⟨m, earlier, made⟩ := Shared.run_cons.mp ran
    have between := Shared.follows_run sound earlier entry
    rw [fetches, List.countP_cons, ← fetches, ih earlier, begins_eq_grants made, Access.log_cons, Log.on_append,
      grants_append, ← between]

/-- The reason that an access is to fetch a slot once more. -/
def Access.reason? (entry : EntryId) : Access α → Option Reason
  | .mark other => if other = entry then some .marked else none
  | .drop h => if h.isLiveOn entry then some .dropped else none
  | .settle h state => if h.claim.entry = entry ∧ state.isPending then some .blanked else none
  | _ => none

theorem Log.reasons_operation? (a : Access α) (entry : EntryId) :
    Log.reasons a.operation?.toList entry = (a.reason? entry).toList := by
  cases a with
  | drop h =>
    rw [Access.operation?, Access.reason?, Held.isLiveOn]
    cases h.isSettled with
    | true => rfl
    | false =>
      rw [if_neg Bool.false_ne_true, Option.toList_some, reasons_singleton, Operation.reason?]
      by_cases same : h.claim.entry = entry <;> simp [same]
  | settle h state =>
    rw [Access.operation?, Option.toList_some, reasons_singleton, Access.reason?, Operation.reason?]
    by_cases same : h.claim.entry = entry <;> simp [same]
  | mark other =>
    rw [Access.operation?, Option.toList_some, reasons_singleton, Access.reason?, Operation.reason?]
    split <;> rfl
  | claim h | refuse other =>
    rw [Access.operation?, Option.toList_some, reasons_singleton]
    split <;> rfl
  | _ => rfl

theorem countP_eq_count {counts : Access α → Bool} {reason : Reason}
    (each : ∀ a, counts a = (a.reason? entry).any (· == reason))
    (segment : List (Access α)) : segment.countP counts = ((Access.log segment).reasons entry).count reason := by
  induction segment with
  | nil => rfl
  | cons a segment ih =>
    have now : (if counts a then 1 else 0) = (a.reason? entry).toList.count reason := by
      rw [each]
      cases a.reason? entry with
      | none => rfl
      | some given => simp [List.count_singleton]
    rw [List.countP_cons, ih, now, Access.log_cons, Log.reasons_append, List.count_append, Log.reasons_operation?]

/-- The marks of a slot, the claims on it that are dropped and the settlements with nothing are the reasons in the log. -/
theorem count_reasons (entry : EntryId) (segment : List (Access α)) :
    marks entry segment = ((Access.log segment).reasons entry).count .marked ∧
      abandonments entry segment = ((Access.log segment).reasons entry).count .dropped ∧
      blankings entry segment = ((Access.log segment).reasons entry).count .blanked := by
  refine ⟨countP_eq_count (fun a => ?_) _, countP_eq_count (fun a => ?_) _, countP_eq_count (fun a => ?_) _⟩
  · cases a with
    | mark other =>
      rw [Access.marks, Access.reason?]
      by_cases same : other = entry <;> simp [same]
    | settle h state | drop h =>
      change false = _
      rw [Access.reason?]
      split <;> rfl
    | _ => rfl
  · cases a with
    | drop h =>
      rw [Access.abandons, Access.reason?]
      cases h.isLiveOn entry <;> rfl
    | settle h state | mark other =>
      change false = _
      rw [Access.reason?]
      split <;> rfl
    | _ => rfl
  · cases a with
    | settle h state =>
      rw [Access.blanks, Access.reason?]
      by_cases same : h.claim.entry = entry <;> cases state.isPending <;> simp [same]
    | mark other | drop h =>
      change false = _
      rw [Access.reason?]
      split <;> rfl
    | _ => rfl

theorem length_eq_counts (reasons : List Reason) :
    reasons.length = reasons.count .marked + reasons.count .dropped + reasons.count .blanked := by
  induction reasons with
  | nil => rfl
  | cons reason reasons ih =>
    cases reason <;> simp [ih] <;> omega

end

end ChannelFeed.Cache
