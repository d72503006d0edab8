import ChannelFeed.Proofs.Sharing.SingleFlight

/-!
# What a slot tells of its history

A slot can be read off the accesses that were made to it: its generation counts the marks, its state is what was
settled last, and it is stale if it was marked since the fetch behind its state began, or if a fetch was given up
since that state was settled. So no mark is ever lost, and an old state never passes for a fresh one.
-/
namespace ChannelFeed.Cache

variable {α : Type}

namespace Access

def marks (entry : EntryId) : Access α → Bool
  | .mark other => other == entry
  | _ => false

/-- The claim that settles the slot, and the state. -/
def settlement? (entry : EntryId) : Access α → Option (Held × FetchState α)
  | .settle h state => if h.claim.entry = entry then some (h, state) else none
  | _ => none

/-- Whether a claim on the slot is let go that has not settled it. -/
def abandons (entry : EntryId) : Access α → Bool
  | .drop h => h.isLiveOn entry
  | _ => false

/-- Whether it is the taking of the claim. -/
def takes (h : Held) : Access α → Bool
  | .claim other => other == h
  | _ => false

theorem quiet_of_not_concerns {a : Access α} {entry : EntryId} (off : a.concerns entry = false) :
    a.settlement? entry = none ∧ a.marks entry = false ∧ a.abandons entry = false := by
  cases a with
  | mark other => exact ⟨rfl, off, rfl⟩
  | settle h state => exact ⟨if_neg (beq_eq_false_iff_ne.mp off), rfl, rfl⟩
  | drop h => exact ⟨rfl, rfl, off⟩
  | _ => exact ⟨rfl, rfl, rfl⟩

end Access

/-! ## Reading a run -/

def marks (entry : EntryId) (past : List (Access α)) : Nat := past.countP (·.marks entry)

/-- The claim that settled a slot last, and the state that it left. -/
def lastSettlement (entry : EntryId) (past : List (Access α)) : Option (Held × FetchState α) :=
  past.findSome? (·.settlement? entry)

/-- The accesses made after the last settlement of a slot, and all of them if there was none. -/
def sinceSettled (entry : EntryId) (past : List (Access α)) : List (Access α) :=
  past.takeWhile fun a => (a.settlement? entry).isNone

/-- The accesses made after a claim was taken. -/
def sinceTaken (h : Held) (past : List (Access α)) : List (Access α) := past.takeWhile (!·.takes h)

/-- The accesses made until a claim was taken. -/
def untilTaken (h : Held) (past : List (Access α)) : List (Access α) := past.dropWhile (!·.takes h)

/-- The accesses made after the claim was taken that settled a slot last, and all of them if none did. -/
def sinceFetched (entry : EntryId) (past : List (Access α)) : List (Access α) :=
  match lastSettlement entry past with
  | some (h, _) => sinceTaken h past
  | none => past

/-- The accesses made until the claim was taken that settled a slot last, and none of them if none did. -/
def untilFetched (entry : EntryId) (past : List (Access α)) : List (Access α) :=
  match lastSettlement entry past with
  | some (h, _) => untilTaken h past
  | none => []

/-- The state that the last settlement of a slot left. -/
def stateLeft (entry : EntryId) (past : List (Access α)) : FetchState α :=
  match lastSettlement entry past with
  | some (_, state) => state
  | none => .pending

theorem sinceFetched_append (entry : EntryId) (past : List (Access α)) :
    sinceFetched entry past ++ untilFetched entry past = past := by
  unfold sinceFetched untilFetched
  split
  · exact List.takeWhile_append_dropWhile
  · exact List.append_nil past

/-- A slot was marked since its last fetch began if there were fewer marks until then than there are in all. -/
theorem marked_sinceFetched_iff (entry : EntryId) (past : List (Access α)) :
    (∃ a ∈ sinceFetched entry past, a.marks entry = true) ↔
      marks entry (untilFetched entry past) < marks entry past := by
  have parts : marks entry past =
      marks entry (sinceFetched entry past) + marks entry (untilFetched entry past) := by
    rw [marks, marks, marks, ← List.countP_append, sinceFetched_append]
  rw [parts, Nat.lt_add_left_iff_pos, marks, List.countP_pos_iff]

theorem takes_iff {a : Access α} {h : Held} : a.takes h = true ↔ a = .claim h := by
  cases a with
  | claim other => rw [Access.takes, beq_iff_eq, Access.claim.injEq]
  | _ => exact iff_of_false Bool.false_ne_true fun same => nomatch same

theorem untilTaken_of_mem {h : Held} {later : List (Access α)} (past : List (Access α)) (taken : .claim h ∈ later) :
    ∃ begun, untilTaken h (later ++ past) = begun ++ past := by
  induction later with
  | nil => cases taken
  | cons a later ih =>
    cases takes : a.takes h with
    | true => exact ⟨a :: later, by rw [untilTaken, List.cons_append, List.dropWhile_cons, takes]; rfl⟩
    | false =>
      have rest : .claim h ∈ later := by
        rcases List.mem_cons.mp taken with same | rest
        · rw [takes_iff.mpr same.symm] at takes
          cases takes
        · exact rest
      obtain ⟨begun, same⟩ := ih rest
      refine ⟨begun, ?_⟩
      rw [← same, untilTaken, List.cons_append, List.dropWhile_cons, takes]
      rfl

theorem untilTaken_of_not_mem {h : Held} {later : List (Access α)} (past : List (Access α))
    (untaken : .claim h ∉ later) : untilTaken h (later ++ past) = untilTaken h past := by
  refine List.dropWhile_append_of_pos ?_
  intro a there
  cases takes : a.takes h with
  | false => rfl
  | true => exact absurd (takes_iff.mp takes ▸ there) untaken

/-- The fetch behind a state began after a mark if and only if its claim was taken since. -/
theorem marks_le_untilFetched_iff (entry : EntryId) (later past : List (Access α)) :
    marks entry (.mark entry :: past) ≤ marks entry (untilFetched entry (later ++ .mark entry :: past)) ↔
      ∃ h state, lastSettlement entry (later ++ .mark entry :: past) = some (h, state) ∧ .claim h ∈ later := by
  unfold untilFetched
  cases lastSettlement entry (later ++ .mark entry :: past) with
  | none => simp [marks, Access.marks]
  | some settled =>
    obtain ⟨h, state⟩ := settled
    by_cases taken : .claim h ∈ later
    · obtain ⟨begun, same⟩ := untilTaken_of_mem (.mark entry :: past) taken
      simp only [same, marks, List.countP_append]
      exact iff_of_true (Nat.le_add_left _ _) ⟨h, state, rfl, taken⟩
    · have fewer : marks entry (untilTaken h past) ≤ marks entry past :=
        (List.dropWhile_sublist _).countP_le
      have next : marks entry (.mark entry :: past) = marks entry past + 1 := by simp [marks, Access.marks]
      have same : untilTaken h (later ++ .mark entry :: past) = untilTaken h past :=
        untilTaken_of_not_mem (.mark entry :: past) taken
      rw [next]
      simp only [same]
      refine iff_of_false (by omega) ?_
      rintro ⟨other, state', settled, there⟩
      cases settled
      exact taken there

/-! ## The invariant -/

/-- A slot is as its history tells, and so are the claims that are live on it. -/
structure Told (entry : EntryId) (past : List (Access α)) (s : Shared α) : Prop where
  generation : (s.registry.slot entry).generation = marks entry past
  state : (s.registry.slot entry).state = stateLeft entry past
  settledGeneration : (s.registry.slot entry).settledGeneration = marks entry (untilFetched entry past)
  isStale : (s.registry.slot entry).isStale = true ↔
    (s.registry.slot entry).settledGeneration < (s.registry.slot entry).generation ∨
      ∃ a ∈ sinceSettled entry past, a.abandons entry = true
  notAhead : (s.registry.slot entry).settledGeneration ≤ (s.registry.slot entry).generation
  between : ∀ h ∈ s.live entry, (s.registry.slot entry).settledGeneration ≤ h.claim.generation ∧
    h.claim.generation ≤ (s.registry.slot entry).generation
  begun : ∀ h ∈ s.live entry, h.claim.generation = marks entry (untilTaken h past)
  taken : ∀ h ∈ s.live entry, .claim h ∈ past
  settledBy : ∀ h state, lastSettlement entry past = some (h, state) → h.number < s.taken ∧ .claim h ∈ past

theorem told_start (caches : Nat) (entry : EntryId) : Told entry [] (Shared.start caches : Shared α) where
  generation := rfl
  state := rfl
  settledGeneration := rfl
  isStale := by
    constructor
    · intro stale
      cases stale
    · rintro (behind | ⟨a, none, -⟩)
      · cases behind
      · cases none
  notAhead := Nat.le_refl _
  between := by
    intro h live
    cases live
  begun := by
    intro h live
    cases live
  taken := by
    intro h live
    cases live
  settledBy := by
    intro h state settled
    cases settled

/-! ## One more access -/

section
variable {s t : Shared α} {a : Access α} {entry : EntryId} {past : List (Access α)}

theorem not_takes (made : s.step a = some t) {h : Held} (earlier : h.number < s.taken) : a.takes h = false := by
  cases a with
  | claim other =>
    obtain ⟨-, -, new, -⟩ := Shared.step_claim.mp made
    refine beq_eq_false_iff_ne.mpr ?_
    rintro rfl
    rw [new] at earlier
    exact absurd earlier (Nat.lt_irrefl _)
  | _ => rfl

theorem marks_cons (entry : EntryId) (a : Access α) (past : List (Access α)) :
    marks entry (a :: past) = marks entry past + if a.marks entry then 1 else 0 := by
  rw [marks, marks, List.countP_cons]

theorem lastSettlement_cons (quiet : a.settlement? entry = none) :
    lastSettlement entry (a :: past) = lastSettlement entry past := by
  rw [lastSettlement, lastSettlement, List.findSome?_cons, quiet]

theorem sinceSettled_cons (quiet : a.settlement? entry = none) :
    sinceSettled entry (a :: past) = a :: sinceSettled entry past := by
  rw [sinceSettled, sinceSettled, List.takeWhile_cons, quiet]
  rfl

theorem untilTaken_cons {h : Held} (other : a.takes h = false) : untilTaken h (a :: past) = untilTaken h past := by
  rw [untilTaken, untilTaken, List.dropWhile_cons, other]
  rfl

theorem untilFetched_cons (quiet : a.settlement? entry = none)
    (other : ∀ h state, lastSettlement entry past = some (h, state) → a.takes h = false) :
    untilFetched entry (a :: past) = untilFetched entry past := by
  unfold untilFetched
  rw [lastSettlement_cons quiet]
  split
  · next h state settled => exact untilTaken_cons (other h state settled)
  · rfl

theorem stateLeft_cons (quiet : a.settlement? entry = none) :
    stateLeft entry (a :: past) = stateLeft entry past := by
  unfold stateLeft
  rw [lastSettlement_cons quiet]

namespace Told

private theorem settledBy_cons (told : Told entry past s) (made : s.step a = some t) {h : Held} {state : FetchState α}
    (settled : lastSettlement entry past = some (h, state)) : h.number < t.taken ∧ .claim h ∈ a :: past := by
  obtain ⟨earlier, taken⟩ := told.settledBy h state settled
  exact ⟨Nat.lt_of_lt_of_le earlier (Shared.taken_step made), List.mem_cons_of_mem _ taken⟩

/-- An access that neither settles the slot nor marks it nor gives up a fetch of it leaves all as it was, but
that a claim may have been taken. -/
private theorem quiet (told : Told entry past s) (sound : s.Sound) (made : s.step a = some t)
    (unsettled : a.settlement? entry = none) (unmarked : a.marks entry = false) (kept : a.abandons entry = false)
    (same : ∃ fetching, t.registry.slot entry = { s.registry.slot entry with isFetching := fetching })
    (live : ∀ h ∈ t.live entry, h ∈ s.live entry ∨
      h.claim.generation = (s.registry.slot entry).generation ∧ a = .claim h) :
    Told entry (a :: past) t := by
  obtain ⟨fetching, same⟩ := same
  have counted : marks entry (a :: past) = marks entry past := by rw [marks_cons, unmarked]; rfl
  have fetched : untilFetched entry (a :: past) = untilFetched entry past :=
    untilFetched_cons unsettled fun h state settled => not_takes made (told.settledBy h state settled).1
  refine ⟨?_, ?_, ?_, ?_, ?_, ?_, ?_, ?_, ?_⟩
  · rw [same, counted]
    exact told.generation
  · rw [same, stateLeft_cons unsettled]
    exact told.state
  · rw [same, fetched]
    exact told.settledGeneration
  · rw [same, sinceSettled_cons unsettled]
    simp only [List.mem_cons, exists_eq_or_imp, kept, Bool.false_eq_true, false_or]
    exact told.isStale
  · rw [same]
    exact told.notAhead
  · intro h on
    rw [same]
    rcases live h on with old | ⟨now, -⟩
    · exact told.between h old
    · rw [now]
      exact ⟨told.notAhead, Nat.le_refl _⟩
  · intro h on
    rcases live h on with old | ⟨now, new⟩
    · rw [untilTaken_cons (not_takes made (sound.numbered h (Shared.mem_live.mp old).1))]
      exact told.begun h old
    · have whole : untilTaken h (a :: past) = a :: past := by
        rw [untilTaken, List.dropWhile_cons, new]
        simp [Access.takes]
      rw [now, whole, counted]
      exact told.generation
  · intro h on
    rcases live h on with old | ⟨-, rfl⟩
    · exact List.mem_cons_of_mem _ (told.taken h old)
    · exact List.mem_cons_self
  · intro h state settled
    rw [lastSettlement_cons unsettled] at settled
    exact told.settledBy_cons made settled

private theorem marked (told : Told entry past s) (sound : s.Sound) (made : s.step (.mark entry) = some t) :
    Told entry (.mark entry :: past) t := by
  have slot := Shared.slot_step sound.inside made entry
  have live := Shared.live_step made entry
  simp only [Access.effect, if_pos, Slot.markedStale] at slot
  have counted : marks entry (.mark entry :: past) = marks entry past + 1 := by simp [marks_cons, Access.marks]
  have fetched : untilFetched entry (.mark entry :: past) = untilFetched entry past :=
    untilFetched_cons rfl fun h state settled => not_takes made (told.settledBy h state settled).1
  refine ⟨?_, ?_, ?_, ?_, ?_, ?_, ?_, ?_, ?_⟩
  · rw [slot, counted, ← told.generation]
  · rw [slot, stateLeft_cons rfl]
    exact told.state
  · rw [slot, fetched]
    exact told.settledGeneration
  · rw [slot]
    exact iff_of_true rfl (.inl (Nat.lt_succ_of_le told.notAhead))
  · rw [slot]
    exact Nat.le_succ_of_le told.notAhead
  · intro h on
    rw [live] at on
    obtain ⟨low, high⟩ := told.between h on
    rw [slot]
    exact ⟨low, Nat.le_succ_of_le high⟩
  · intro h on
    rw [live] at on
    rw [untilTaken_cons rfl]
    exact told.begun h on
  · intro h on
    rw [live] at on
    exact List.mem_cons_of_mem _ (told.taken h on)
  · intro h state settled
    rw [lastSettlement_cons rfl] at settled
    exact told.settledBy_cons made settled

private theorem settled (told : Told entry past s) (sound : s.Sound) {h : Held} {state : FetchState α}
    (on : h.claim.entry = entry) (made : s.step (.settle h state) = some t) :
    Told entry (.settle h state :: past) t := by
  obtain ⟨⟨holds, unsettled⟩, -⟩ := Shared.step_settle.mp made
  have slot := Shared.slot_step sound.inside made entry
  have live := Shared.live_step made entry
  have mine : h ∈ s.live entry := Shared.mem_live.mpr ⟨holds, unsettled, on⟩
  have ended : t.live entry = [] := by simp [live, Access.liveAfter, (sound.alone mine).1]
  simp only [Access.effect, on.symm, if_pos, Slot.settled] at slot
  have last : lastSettlement entry (.settle h state :: past) = some (h, state) := by
    simp [lastSettlement, Access.settlement?, on]
  have fetched : untilFetched entry (.settle h state :: past) = untilTaken h past := by
    simp only [untilFetched, last]
    exact untilTaken_cons rfl
  have counted : marks entry (.settle h state :: past) = marks entry past := by simp [marks_cons, Access.marks]
  subst on
  refine ⟨?_, ?_, ?_, ?_, ?_, ?_, ?_, ?_, ?_⟩
  · rw [slot, counted]
    exact told.generation
  · rw [slot, stateLeft, last]
  · rw [slot, fetched]
    exact told.begun h mine
  · have none : sinceSettled h.claim.entry (.settle h state :: past) = [] := by
      simp [sinceSettled, Access.settlement?]
    have high := (told.between h mine).2
    rw [slot, none]
    simp only [bne_iff_ne, List.not_mem_nil, false_and, exists_false, or_false]
    omega
  · rw [slot]
    exact (told.between h mine).2
  · intro other live
    rw [ended] at live
    cases live
  · intro other live
    rw [ended] at live
    cases live
  · intro other live
    rw [ended] at live
    cases live
  · intro other left settled
    rw [last] at settled
    cases settled
    exact ⟨Nat.lt_of_lt_of_le (sound.numbered h holds) (Shared.taken_step made),
      List.mem_cons_of_mem _ (told.taken h mine)⟩

private theorem abandoned (told : Told entry past s) (sound : s.Sound) {h : Held} (on : h.isLiveOn entry = true)
    (made : s.step (.drop h) = some t) : Told entry (.drop h :: past) t := by
  have slot := Shared.slot_step sound.inside made entry
  have live := Shared.live_step made entry
  simp only [Access.effect, if_pos on, Slot.released] at slot
  have counted : marks entry (.drop h :: past) = marks entry past := by simp [marks_cons, Access.marks]
  have fetched : untilFetched entry (.drop h :: past) = untilFetched entry past :=
    untilFetched_cons rfl fun h state settled => rfl
  have fewer : ∀ other ∈ t.live entry, other ∈ s.live entry := by
    intro other live'
    rw [live] at live'
    exact (List.mem_filter.mp live').1
  refine ⟨?_, ?_, ?_, ?_, ?_, ?_, ?_, ?_, ?_⟩
  · rw [slot, counted]
    exact told.generation
  · rw [slot, stateLeft_cons rfl]
    exact told.state
  · rw [slot, fetched]
    exact told.settledGeneration
  · rw [slot, sinceSettled_cons rfl]
    exact iff_of_true rfl (.inr ⟨_, List.mem_cons_self, on⟩)
  · rw [slot]
    exact told.notAhead
  · intro other live'
    rw [slot]
    exact told.between other (fewer other live')
  · intro other live'
    rw [untilTaken_cons rfl]
    exact told.begun other (fewer other live')
  · intro other live'
    exact List.mem_cons_of_mem _ (told.taken other (fewer other live'))
  · intro other state settled
    rw [lastSettlement_cons rfl] at settled
    exact told.settledBy_cons made settled

theorem step (told : Told entry past s) (sound : s.Sound) (made : s.step a = some t) :
    Told entry (a :: past) t := by
  cases on : a.concerns entry with
  | false =>
    obtain ⟨slot, live⟩ := Shared.same_of_not_concerns sound.inside made on
    obtain ⟨unsettled, unmarked, kept⟩ := Access.quiet_of_not_concerns on
    refine told.quiet sound made unsettled unmarked kept ⟨_, slot⟩ ?_
    intro h live'
    rw [live] at live'
    exact .inl live'
  | true =>
    cases a with
    | claim h =>
      obtain rfl : h.claim.entry = entry := beq_iff_eq.mp on
      obtain ⟨-, -, new, -⟩ := Shared.step_claim.mp made
      refine told.quiet sound made rfl rfl rfl ⟨true, ?_⟩ ?_
      · rw [Shared.slot_step sound.inside made, Access.effect, if_pos rfl, Slot.claimed]
      · intro other live'
        rw [Shared.live_step made, Access.liveAfter, if_pos rfl] at live'
        rcases List.mem_append.mp live' with old | last
        · exact .inl old
        · rw [List.mem_singleton.mp last]
          refine .inr ⟨?_, rfl⟩
          rw [new]
    | mark other =>
      obtain rfl : other = entry := beq_iff_eq.mp on
      exact told.marked sound made
    | settle h state => exact told.settled sound (beq_iff_eq.mp on) made
    | drop h => exact told.abandoned sound on made
    | _ => cases on

end Told

/-- A result never takes the place of one that was asked for later. -/
theorem settledGeneration_step (told : Told entry past s) (sound : s.Sound) (made : s.step a = some t) :
    (s.registry.slot entry).settledGeneration ≤ (t.registry.slot entry).settledGeneration := by
  cases on : a.concerns entry with
  | false =>
    have same := (Shared.same_of_not_concerns sound.inside made on).1
    exact Nat.le_of_eq (congrArg Slot.settledGeneration same.symm)
  | true =>
    have slot := Shared.slot_step sound.inside made entry
    cases a with
    | settle h state =>
      obtain rfl : h.claim.entry = entry := beq_iff_eq.mp on
      obtain ⟨⟨holds, unsettled⟩, -⟩ := Shared.step_settle.mp made
      rw [slot, Access.effect, if_pos rfl]
      exact (told.between h (Shared.mem_live.mpr ⟨holds, unsettled, rfl⟩)).1
    | claim h =>
      rw [slot, Access.effect]
      split <;> exact Nat.le_refl _
    | mark other =>
      rw [slot, Access.effect]
      split <;> exact Nat.le_refl _
    | drop h =>
      rw [slot, Access.effect]
      split <;> exact Nat.le_refl _
    | _ => cases on

end

/-! ## Whole runs -/

section
variable {caches : Nat} {past later : List (Access α)} {s t : Shared α}

theorem told_run (entry : EntryId) (ran : (Shared.start caches).run past = some s) : Told entry past s := by
  induction past generalizing s with
  | nil =>
    cases ran
    exact told_start caches entry
  | cons a past ih =>
    obtain ⟨m, earlier, made⟩ := Shared.run_cons.mp ran
    exact (ih earlier).step ((Shared.sound_start caches).run earlier) made

theorem settledGeneration_run (entry : EntryId) (ran : (Shared.start caches).run past = some s)
    (on : s.run later = some t) :
    (s.registry.slot entry).settledGeneration ≤ (t.registry.slot entry).settledGeneration := by
  induction later generalizing t with
  | nil =>
    cases on
    exact Nat.le_refl _
  | cons a later ih =>
    obtain ⟨m, first, made⟩ := Shared.run_cons.mp on
    have whole := Shared.run_append.mpr ⟨s, ran, first⟩
    have told := told_run entry whole
    exact Nat.le_trans (ih first) (settledGeneration_step told ((Shared.sound_start caches).run whole) made)

/-- A slot is determined by the history of the accesses that were made to it. Generations are counted without a
bound, so this is what a counter of 64 bits shows as long as a slot was marked less than `2 ^ 64` times. -/
theorem slot_of_history (ran : (Shared.start caches).run past = some s) (entry : EntryId) :
    (s.registry.slot entry).generation = marks entry past ∧
      (s.registry.slot entry).state = stateLeft entry past ∧
      (s.registry.slot entry).settledGeneration = marks entry (untilFetched entry past) ∧
      (∀ h state, lastSettlement entry past = some (h, state) → .claim h ∈ past) ∧
      ((s.registry.slot entry).isStale = true ↔
        (∃ a ∈ sinceFetched entry past, a.marks entry = true) ∨
          ∃ a ∈ sinceSettled entry past, a.abandons entry = true) ∧
      (∀ h ∈ s.live entry, (s.registry.slot entry).settledGeneration ≤ h.claim.generation ∧
        h.claim.generation ≤ (s.registry.slot entry).generation) ∧
      (s.registry.slot entry).settledGeneration ≤ (s.registry.slot entry).generation ∧
      ((s.registry.slot entry).isStale = false →
        (s.registry.slot entry).settledGeneration = (s.registry.slot entry).generation) ∧
      ∀ later t, s.run later = some t →
        (s.registry.slot entry).settledGeneration ≤ (t.registry.slot entry).settledGeneration := by
  have told := told_run entry ran
  refine ⟨told.generation, told.state, told.settledGeneration, ?_, ?_, told.between, told.notAhead, ?_, ?_⟩
  · intro h state settled
    exact (told.settledBy h state settled).2
  · rw [marked_sinceFetched_iff, ← told.generation, ← told.settledGeneration]
    exact told.isStale
  · intro current
    refine Nat.le_antisymm told.notAhead (Nat.not_lt.mp ?_)
    intro behind
    rw [told.isStale.mpr (.inl behind)] at current
    cases current
  · intro later t on
    exact settledGeneration_run entry ran on

theorem slot_of_markedInFlight :
    ∃ s, (Shared.start 1).run (markedInFlight 5) = some s ∧ s.registry.slot 0 = ⟨.ready 5, false, true, 1, 0⟩ ∧
      (s.registry.slot 0).settledGeneration = marks 0 (untilFetched 0 (markedInFlight 5)) ∧
      marks 0 (untilFetched 0 (markedInFlight 5)) = 0 ∧ marks 0 (markedInFlight 5) = 1 := by
  have ran : (Shared.start 1).run (markedInFlight 5) = some _ := rfl
  exact ⟨_, ran, rfl, (slot_of_history ran 0).2.2.1, by decide, by decide⟩

end

end ChannelFeed.Cache
