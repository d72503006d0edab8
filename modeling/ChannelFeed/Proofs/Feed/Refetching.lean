import ChannelFeed.Proofs.Feed.Promises
import ChannelFeed.Proofs.Feed.SideBySide

/-!
# Asking anew

A call that asks for the channels anew has its result at its first poll at which no fetch of its slot is on its way and
what is there was fetched since it asked. At every other poll a fetch is on its way, which others have started or which
the poll itself starts, so what is too old is never made do with. The call starts one fetch more at most than there are
fetches of its slot that are dropped while it waits: what it has started once is promised until it is dropped.
-/
namespace ChannelFeed

open Cache

/-- What a call is for: the feed and the slot of the channels, and since when they are to be fetched. -/
structure Call.IsFor (c : Call) (feed : Feed) (entry : EntryId) (since : Nat) : Prop where
  feed : c.feed = feed
  entry : c.entry = entry
  since : c.since = since

namespace World

variable {w w' : World} {place : Nat} {name : String} {c : Call} {feed : Feed} {entry : EntryId} {since : Nat}

/-! ## Calls in line -/

/-- A call waits in a place of the line. -/
def Waiting (w : World) (place : Nat) (feed : Feed) (entry : EntryId) (since : Nat) : Prop :=
  ∃ name c, w.calls[place]? = some (name, c) ∧ c.IsFor feed entry since

/-- In a turn one leaves the line at most, and whoever comes is put at its end. -/
theorem calls_turn (w : World) (turn : Turn) :
    ∃ more, (w.turn turn).calls = (w.taken? turn).elim w.calls w.calls.eraseIdx ++ more := by
  have stay {w' : World} (same : w'.calls = w.calls) : ∃ more, w'.calls = w.calls ++ more :=
    ⟨[], same.trans (List.append_nil _).symm⟩
  have handled {β : Type} (handle : Option β) {f : β → Answer × World} (each : ∀ x, (f x).2.calls = w.calls) :
      ∃ more, (w.withHandle handle f).2.calls = w.calls ++ more := by
    cases handle with
    | none => exact stay rfl
    | some x => exact stay (each x)
  cases turn with
  | fly place =>
    refine stay ?_
    simp only [turn]
    split
    · rfl
    · next f _ => exact calls_runFlight { w with flights := w.flights.eraseIdx place } f
  | poll inRuntime place =>
    cases there : w.calls[place]? with
    | none =>
      refine ⟨[], ?_⟩
      have beyond := List.getElem?_eq_none_iff.mp there
      simp [turn, there, taken?, List.eraseIdx_of_length_le beyond]
    | some pair =>
      rw [turn_poll there]
      exact ⟨_, rfl⟩
  | command inRuntime command =>
    cases command with
    | cancel name =>
      refine ⟨[], ?_⟩
      rw [List.append_nil]
      exact congrArg (·.2.calls) (step_cancel w inRuntime name)
    | load number name =>
      have makes : (Command.load number name).makesCall = true := rfl
      obtain ⟨more, line, -⟩ := step_makesCall w inRuntime makes
      exact ⟨more, line⟩
    | refetch number name =>
      have makes : (Command.refetch number name).makesCall = true := rfl
      obtain ⟨more, line, -⟩ := step_makesCall w inRuntime makes
      exact ⟨more, line⟩
    | changed name => exact handled _ fun _ => rfl
    | intoStream watch name => exact handled _ fun _ => rfl
    | next name =>
      refine handled _ fun x => ?_
      split <;> rfl
    | _ => exact stay (step_same w inRuntime rfl).1

theorem custody_poll (there : w.calls[place]? = some (name, c)) (inRuntime : Bool) :
    (w.turn (.poll inRuntime place)).custody = (w.advance inRuntime c maxAccesses).2.custody := by
  rw [turn_poll there]
  unfold pollCall
  obtain ⟨polled, w'⟩ := w.advance inRuntime c maxAccesses
  cases polled <;> rfl

/-- A call that is polled goes to the end of the line if it has to wait, and otherwise leaves it. -/
theorem placeAfter_poll (there : w.calls[place]? = some (name, c)) (inRuntime : Bool) :
    w.placeAfter (some place) (.poll inRuntime place) =
      match (w.advance inRuntime c maxAccesses).1 with
      | .pending _ => some (w.calls.length - 1)
      | .done _ => none := by
  have inside : place < w.calls.length := (List.getElem?_eq_some_iff.mp there).choose
  have length : (w.turn (.poll inRuntime place)).calls.length =
      w.calls.length - 1 + (putBack name (w.pollCall inRuntime c).1).length := by
    rw [turn_poll there]
    change (w.calls.eraseIdx place ++ _).length = _
    rw [List.length_append, List.length_eraseIdx_of_lt inside]
  rw [placeAfter, if_pos ⟨rfl, rfl⟩, length]
  unfold pollCall
  obtain ⟨polled, w'⟩ := w.advance inRuntime c maxAccesses
  cases polled with
  | pending rest => exact if_pos (Nat.sub_add_cancel (Nat.lt_of_le_of_lt (Nat.zero_le _) inside))
  | done given => exact if_neg (by simp only [putBack, List.length_nil]; omega)

theorem placeAfter_none (w : World) (turn : Turn) : w.placeAfter none turn = none := by
  rw [placeAfter, if_neg (by simp)]
  cases w.taken? turn <;> rfl

theorem placeAfterAll_none (w : World) (turns : List Turn) : w.placeAfterAll none turns = none := by
  induction turns generalizing w with
  | nil => rfl
  | cons turn turns ih => rw [placeAfterAll, placeAfter_none, ih]

/-- A call whose turn it is goes on to wait for the same if it stays in line. -/
theorem Ready.waiting_own (ready : w.Ready) (waiting : w.Waiting place feed entry since) {turn : Turn} {later : Nat}
    (own : w.taken? turn = some place) (stays : w.placeAfter (some place) turn = some later) :
    (w.turn turn).Waiting later feed entry since := by
  obtain ⟨name, c, there, isFor⟩ := waiting
  have inside : place < w.calls.length := (List.getElem?_eq_some_iff.mp there).choose
  cases turn with
  | fly place => cases own
  | poll inRuntime place =>
    cases own
    have polls := polls_waiting inRuntime (ready.calls _ (List.mem_of_getElem? there))
      (ready.waits _ (List.mem_of_getElem? there))
    rw [placeAfter_poll there] at stays
    rw [Waiting, turn_poll there]
    unfold pollCall
    generalize w.advance inRuntime c maxAccesses = result at polls stays ⊢
    obtain ⟨polled, w'⟩ := result
    cases polled with
    | done state => cases stays
    | pending rest =>
      cases stays
      have same := polls.waits (ready.calls _ (List.mem_of_getElem? there))
        (ready.waits _ (List.mem_of_getElem? there)).since
      refine ⟨name, rest, ?_, same.1.trans isFor.feed, same.2.1.trans isFor.entry, same.2.2.1.trans isFor.since⟩
      change (w.calls.eraseIdx place ++ [(name, rest)])[_]? = _
      rw [← List.length_eraseIdx_of_lt inside]
      exact List.getElem?_concat_length
  | command inRuntime command =>
    cases command with
    | cancel called =>
      have first : w.calls.findIdx (·.1 == called) = place := Option.some.inj own
      have shorter : ¬(w.turn (.command inRuntime (.cancel called))).calls.length = w.calls.length := by
        have line : (w.turn (.command inRuntime (.cancel called))).calls = w.calls.eraseIdx place :=
          (congrArg (·.2.calls) (step_cancel w inRuntime called)).trans (congrArg w.calls.eraseIdx first)
        rw [line, List.length_eraseIdx_of_lt inside]
        omega
      rw [placeAfter, if_pos ⟨rfl, own⟩, if_neg shorter] at stays
      cases stays
    | _ => cases own

/-- A call is not touched in the turns of others. It moves up if one that stands before it is taken out of the line. -/
theorem Waiting.in_turn_of_other (waiting : w.Waiting place feed entry since) {turn : Turn} {later : Nat}
    (own : w.taken? turn ≠ some place) (stays : w.placeAfter (some place) turn = some later) :
    (w.turn turn).Waiting later feed entry since := by
  obtain ⟨name, c, there, isFor⟩ := waiting
  have inside : place < w.calls.length := (List.getElem?_eq_some_iff.mp there).choose
  obtain ⟨more, line⟩ := w.calls_turn turn
  rw [placeAfter, if_neg fun same => own same.2] at stays
  refine ⟨name, c, ?_, isFor⟩
  rw [line]
  cases taken : w.taken? turn with
  | none =>
    rw [taken] at stays
    cases stays
    exact (List.getElem?_append_left inside).trans there
  | some other =>
    rw [taken] at stays own
    have apart : other ≠ place := fun same => own (congrArg some same)
    obtain rfl : (if other < place then place - 1 else place) = later := Option.some.inj stays
    simp only [Option.elim_some]
    have moved : (w.calls.eraseIdx other)[if other < place then place - 1 else place]? = some (name, c) := by
      rw [List.getElem?_eraseIdx, ← there]
      by_cases before : other < place
      · rw [if_pos before, if_neg (by omega), Nat.sub_add_cancel (by omega)]
      · rw [if_neg before, if_pos (by omega)]
    have short : (if other < place then place - 1 else place) < (w.calls.eraseIdx other).length :=
      (List.getElem?_eq_some_iff.mp moved).choose
    rw [List.getElem?_append_left short, moved]

/-- A call goes on to wait for the same, whatever is done in a turn, as long as it is in line. -/
theorem Ready.waiting_turn (ready : w.Ready) (waiting : w.Waiting place feed entry since) {turn : Turn} {later : Nat}
    (stays : w.placeAfter (some place) turn = some later) : (w.turn turn).Waiting later feed entry since := by
  by_cases own : w.taken? turn = some place
  · exact ready.waiting_own waiting own stays
  · exact waiting.in_turn_of_other own stays

theorem Ready.waiting_turns (ready : w.Ready) (waiting : w.Waiting place feed entry since) {turns : List Turn}
    {later : Nat} (stays : w.placeAfterAll (some place) turns = some later) :
    (w.turns turns).Waiting later feed entry since := by
  induction turns generalizing w place with
  | nil =>
    cases stays
    exact waiting
  | cons turn turns ih =>
    rw [placeAfterAll] at stays
    cases next : w.placeAfter (some place) turn with
    | none =>
      rw [next, placeAfterAll_none] at stays
      cases stays
    | some between =>
      rw [next] at stays
      exact ih (ready.turn turn) (ready.waiting_turn waiting next) stays

/-! ## One poll -/

/-- How a call in line is polled within a runtime. It has its result if no claim is on its slot and what is there is new
enough, and then leaves the line. Otherwise it waits behind the others, and a claim is on its slot after the poll: the
one that was there, or that of a fetch which the poll has started. -/
structure EndsInTime (w : World) (place : Nat) (feed : Feed) (entry : EntryId) (since : Nat) : Prop where
  ended : w.claimsOn entry = [] ∧ since ≤ (w.registry.slot entry).settledGeneration →
    w.answer (.poll true place) = .result (feed.options.policy.resolve (w.registry.slot entry).state) ∧
      w.placeAfter (some place) (.poll true place) = none
  waits : ¬(w.claimsOn entry = [] ∧ since ≤ (w.registry.slot entry).settledGeneration) →
    w.answer (.poll true place) = .pending ∧
      w.placeAfter (some place) (.poll true place) = some (w.calls.length - 1) ∧
      (w.turn (.poll true place)).claimsOn entry ≠ [] ∧
      (w.turn (.poll true place)).flights =
        if w.claimsOn entry = [] then w.flights ++ [.start feed ⟨entry, (w.registry.slot entry).generation⟩]
        else w.flights

theorem Intact.claimsOn_eq_nil (intact : w.Intact) (entry : EntryId) :
    w.claimsOn entry = [] ↔ (w.registry.slot entry).isFetching = false := by
  rw [← not_iff_not, Bool.not_eq_false]
  exact intact.claimsOn_ne_nil entry

theorem Ready.endsInTime (ready : w.Ready) (waiting : w.Waiting place feed entry since) :
    w.EndsInTime place feed entry since := by
  obtain ⟨name, c, there, rfl, rfl, rfl⟩ := waiting
  have made := ready.calls _ (List.mem_of_getElem? there)
  have waits := ready.waits _ (List.mem_of_getElem? there)
  have polls := polls_waiting true made waits
  have free := ready.toIntact.claimsOn_eq_nil c.entry
  have claimed := (ready.toIntact.turn (.poll true place)).claimsOn_ne_nil c.entry
  have custody := custody_poll there true
  have line := placeAfter_poll there true
  obtain ⟨told, flights⟩ := poll_advance there true
  generalize w.advance true c maxAccesses = result at polls custody line told flights
  obtain ⟨polled, w'⟩ := result
  constructor
  · rintro ⟨none, enough⟩
    cases polls with
    | blocked busy =>
      rw [free.mp none] at busy
      cases busy
    | ended => exact ⟨told, line⟩
    | renewed _ old => exact absurd enough (Nat.not_le.mpr old)
    | outdated _ old => exact absurd enough (Nat.not_le.mpr old)
  · intro condition
    cases polled with
    | done state =>
      obtain ⟨idle, enough, -⟩ := polls.ended_of_done ready.toIntact waits.since
      exact absurd ⟨free.mpr idle, enough⟩ condition
    | pending rest =>
      have registry : (w.turn (.poll true place)).registry = w'.registry := congrArg Custody.registry custody
      rw [registry] at claimed
      refine ⟨told, line, claimed.mpr (polls.waits made waits.since).2.2.2.2, flights.trans ?_⟩
      cases polls with
      | blocked busy => exact (if_neg fun none => Bool.eq_false_iff.mp (free.mp none) busy).symm
      | renewed idle old granted =>
        obtain ⟨-, rfl, rfl⟩ := Registry.claim?_eq_some.mp (Call.claim?_eq_some.mp granted).2
        exact (if_pos (free.mpr idle)).symm

/-! ## The fetches that a call starts -/

/-- How many fetches are started in a turn of a call. None ends in it. -/
def started (w : World) (turn : Turn) : Nat := (w.turn turn).flights.length - w.flights.length

/-- How many fetches the call in a place of the line starts in its turns. -/
def startedBy (w : World) (place : Option Nat) : List Turn → Nat
  | [] => 0
  | turn :: rest =>
    (if place.isSome ∧ w.taken? turn = place then w.started turn else 0) +
      (w.turn turn).startedBy (w.placeAfter place turn) rest

theorem startedBy_none (w : World) (later : List Turn) : w.startedBy none later = 0 := by
  induction later generalizing w with
  | nil => rfl
  | cons turn later ih =>
    rw [startedBy, placeAfter_none, ih, if_neg (by simp)]

/-- A call starts a fetch in its own turn only if it is not promised what it waits for, and then it is promised that. -/
theorem Ready.started_own (ready : w.Ready) (waiting : w.Waiting place feed entry since) {turn : Turn}
    (own : w.taken? turn = some place) :
    w.started turn = 0 ∨ w.started turn = 1 ∧ ¬w.Promises entry since ∧ (w.turn turn).Promises entry since := by
  obtain ⟨name, c, there, rfl, rfl, rfl⟩ := waiting
  cases turn with
  | fly place => cases own
  | poll inRuntime place =>
    cases own
    have made := ready.calls _ (List.mem_of_getElem? there)
    have waits := ready.waits _ (List.mem_of_getElem? there)
    have polls := polls_waiting inRuntime made waits
    have custody := custody_poll there inRuntime
    have flights := (poll_advance there inRuntime).2
    rw [started, flights]
    generalize w.advance inRuntime c maxAccesses = result at polls custody
    cases polls with
    | blocked => exact .inl (Nat.sub_self _)
    | ended => exact .inl (Nat.sub_self _)
    | outdated => exact .inl (Nat.sub_self _)
    | renewed idle old granted =>
      obtain ⟨-, rfl, rfl⟩ := Registry.claim?_eq_some.mp (Call.claim?_eq_some.mp granted).2
      refine .inr ⟨?_, ?_, .inr ⟨⟨c.entry, (w.registry.slot c.entry).generation⟩, ?_, waits.since⟩⟩
      · simp [launch]
      · rintro (now | ⟨claim, on, -⟩)
        · exact absurd now (Nat.not_le.mpr old)
        · rw [(ready.toIntact.claimsOn_eq_nil _).mpr idle] at on
          cases on
      · refine mem_claimsOn.mpr ⟨?_, rfl⟩
        rw [custody]
        simp [World.custody, launch, Flight.start]
  | command inRuntime command =>
    cases command with
    | cancel called =>
      have flights := congrArg (·.2.flights) (step_cancel w inRuntime called)
      exact .inl (Nat.sub_eq_zero_of_le (Nat.le_of_eq (congrArg List.length flights)))
    | _ => cases own

/-- A call in line starts no more fetches than are dropped of its slot, and one besides if it is not promised what it
waits for. -/
theorem Ready.startedBy_le (ready : w.Ready) (waiting : w.Waiting place feed entry since) (later : List Turn) :
    w.startedBy (some place) later ≤ 1 + (w.logs later).releases entry ∧
      (w.Promises entry since → w.startedBy (some place) later ≤ (w.logs later).releases entry) := by
  induction later generalizing w place with
  | nil => exact ⟨Nat.zero_le _, fun _ => Nat.zero_le _⟩
  | cons turn later ih =>
    have rest : (w.turn turn).startedBy (w.placeAfter (some place) turn) later ≤
          1 + ((w.turn turn).logs later).releases entry ∧
        ((w.turn turn).Promises entry since → (w.turn turn).startedBy (w.placeAfter (some place) turn) later ≤
          ((w.turn turn).logs later).releases entry) := by
      cases stays : w.placeAfter (some place) turn with
      | none =>
        rw [startedBy_none]
        exact ⟨Nat.zero_le _, fun _ => Nat.zero_le _⟩
      | some next => exact ih (ready.turn turn) (ready.waiting_turn waiting stays)
    have kept (promises : w.Promises entry since) :
        (w.turn turn).Promises entry since ∨ 1 ≤ (w.log turn).releases entry := by
      by_cases dropped : (entry, .release) ∈ w.log turn
      · exact .inr (Log.releases_pos_of_mem dropped)
      · exact .inl (promises.turn ready dropped)
    have dropped : (w.logs (turn :: later)).releases entry =
        (w.log turn).releases entry + ((w.turn turn).logs later).releases entry := Log.releases_append ..
    rw [startedBy, dropped]
    by_cases own : w.taken? turn = some place
    · rw [if_pos ⟨rfl, own⟩]
      rcases ready.started_own waiting own with none | ⟨one, unpromised, promised⟩
      · rw [none]
        refine ⟨by omega, fun promises => ?_⟩
        rcases kept promises with still | one
        · have := rest.2 still
          omega
        · omega
      · rw [one]
        have := rest.2 promised
        exact ⟨by omega, fun promises => absurd promises unpromised⟩
    · rw [if_neg fun same => own same.2]
      refine ⟨by omega, fun promises => ?_⟩
      rcases kept promises with still | one
      · have := rest.2 still
        omega
      · omega

/-! ## The first poll -/

/-- The state of a slot comes from no later generation than the slot is at. -/
theorem Intact.notAhead (intact : w.Intact) (entry : EntryId) :
    (w.registry.slot entry).settledGeneration ≤ (w.registry.slot entry).generation := by
  obtain ⟨caches, past, s, ran, shows⟩ := intact.shown
  have told := (told_run entry ran).notAhead
  rw [shows.registry] at told
  exact told

/-- A stale slot is being fetched once a call has tried to start a fetch within a runtime. -/
theorem isFetching_startFetch (feed : Feed) (made : entry < w.registry.cells.length)
    (stale : (w.registry.slot entry).isStale = true) :
    ((w.startFetch true feed entry).2.registry.slot entry).isFetching = true := by
  unfold startFetch
  cases asked : Call.claim? true w.registry entry with
  | none =>
    have cannot : (w.registry.slot entry).canClaim = false := Registry.claim?_eq_none.mp asked
    simpa [Slot.canClaim, stale] using cannot
  | some granted =>
    obtain ⟨claim, r⟩ := granted
    change (r.slot entry).isFetching = true
    rw [(slot_claimed made asked).2]
    rfl

theorem begin_stale (made : c.entry < w.registry.cells.length) (begun : c.phase = .starting)
    (stale : (w.registry.slot c.entry).isStale = true) (name : String) :
    (w.begin true name c).1 = .pending ∧ ∃ rest : Call, rest.IsFor c.feed c.entry c.since ∧
      (w.begin true name c).2 = (w.startFetch true c.feed c.entry).2.withCalls (w.calls ++ [(name, rest)]) := by
  have busy := isFetching_startFetch c.feed made stale
  have polls := polls_starting true made begun
  have line : (w.startFetch true c.feed c.entry).2.calls = w.calls := by
    unfold startFetch
    split <;> rfl
  unfold begin pollCall
  generalize w.advance true c maxAccesses = result at polls
  rw [← line]
  cases polls with
  | blocked =>
    refine ⟨rfl, _, ?_, rfl⟩
    exact ⟨rfl, rfl, rfl⟩
  | ended idle => exact absurd busy (Bool.eq_false_iff.mp idle)
  | renewed idle => exact absurd busy (Bool.eq_false_iff.mp idle)
  | outdated idle => exact absurd busy (Bool.eq_false_iff.mp idle)

theorem promises_startFetch (feed : Feed) (late : since ≤ (w.registry.slot entry).generation) :
    (w.startFetch true feed entry).2.flights.length = w.flights.length ∨
      (w.startFetch true feed entry).2.flights.length = w.flights.length + 1 ∧
        (w.startFetch true feed entry).2.Promises entry since := by
  unfold startFetch
  cases asked : Call.claim? true w.registry entry with
  | none => exact .inl rfl
  | some granted =>
    obtain ⟨claim, r⟩ := granted
    obtain ⟨-, rfl, rfl⟩ := Registry.claim?_eq_some.mp (Call.claim?_eq_some.mp asked).2
    refine .inr ⟨by simp [launch], .inr ⟨⟨entry, _⟩, mem_claimsOn.mpr ⟨?_, rfl⟩, late⟩⟩
    simp [custody, launch, Flight.start]

/-- How a call begins that asks for the channels anew. What is in the slot is too old, so it waits for a fetch that is on
its way. If it has started that, it is promised what it waits for. -/
structure Begins (w : World) (number : Nat) (name : String) (feed : Feed) (entry : EntryId) (since : Nat) : Prop where
  outdated : (w.registry.slot entry).settledGeneration < since
  answer : w.answer (.command true (.refetch number name)) = .pending
  claimed : (w.turn (.command true (.refetch number name))).claimsOn entry ≠ []
  waiting : (w.turn (.command true (.refetch number name))).Waiting w.calls.length feed entry since
  started : w.started (.command true (.refetch number name)) = 0 ∨
    w.started (.command true (.refetch number name)) = 1 ∧
      (w.turn (.command true (.refetch number name))).Promises entry since

theorem Ready.begins (ready : w.Ready) {number : Nat} (known : w.feeds[number]? = some feed) (name : String) :
    w.Begins number name feed (w.entry feed).1 ((w.entry feed).2.registry.markStale (w.entry feed).1).1 := by
  obtain ⟨intact, made⟩ := ready.toIntact.entry feed
  have after := ready.toIntact.turn (.command true (.refetch number name))
  have before : (w.entry feed).2.registry.slot (w.entry feed).1 = w.registry.slot (w.entry feed).1 := by
    rw [entry_eq]
    exact w.registry.slot_getOrAdd ..
  have told : w.answer (.command true (.refetch number name)) = (w.refetch true feed name).1 := by
    simp only [World.answer, World.step, known, withHandle]
  have comes : w.turn (.command true (.refetch number name)) = (w.refetch true feed name).2 := by
    simp only [World.turn, World.step, known, withHandle]
  have lines : (w.entry feed).2.flights = w.flights ∧ (w.entry feed).2.calls = w.calls := ⟨rfl, rfl⟩
  unfold refetch at told comes
  generalize w.entry feed = found at *
  obtain ⟨entry, looked⟩ := found
  have marked : (looked.registry.markStale entry).2.slot entry = (w.registry.slot entry).markedStale := by
    rw [← before]
    exact (looked.registry.slot_update entry Slot.markedStale made).trans (if_pos rfl)
  have since : (looked.registry.markStale entry).1 = (w.registry.slot entry).generation + 1 :=
    congrArg Slot.generation marked
  have made' : entry < (looked.registry.markStale entry).2.cells.length := by
    rw [Registry.markStale, Registry.length_update]
    exact made
  have stale : ((looked.registry.markStale entry).2.slot entry).isStale = true := by rw [marked]; rfl
  obtain ⟨waits, rest, isFor, goes⟩ := begin_stale (w := { looked with registry := (looked.registry.markStale entry).2 })
    (c := .refetch feed entry (looked.registry.markStale entry).1) made' rfl stale name
  have busy := isFetching_startFetch (w := { looked with registry := (looked.registry.markStale entry).2 }) feed made' stale
  have fetched := promises_startFetch (w := { looked with registry := (looked.registry.markStale entry).2 }) feed
    (Nat.le_refl (looked.registry.markStale entry).1)
  have now := comes.trans goes
  refine ⟨?_, told.trans waits, ?_, ⟨name, rest, ?_, isFor⟩, ?_⟩
  · rw [since]
    exact Nat.lt_succ_of_le (ready.toIntact.notAhead entry)
  · refine (after.claimsOn_ne_nil entry).mpr ?_
    rw [now]
    exact busy
  · rw [now, ← lines.2]
    exact List.getElem?_concat_length
  · rw [World.started, now, ← lines.1]
    rcases fetched with same | ⟨more, promises⟩
    · exact .inl (Nat.sub_eq_zero_of_le (Nat.le_of_eq same))
    · exact .inr ⟨Nat.sub_eq_of_eq_add (more.trans (Nat.add_comm _ _)), promises⟩

/-- A call that asks for the channels anew has its result at its first poll at which no claim is on its slot and the state
of the slot was fetched since it asked, and its result is what its feed makes of that state. Every other poll of it leaves
it in line with a claim on its slot, be it that of others or of a fetch that the poll has started. From its first poll on
it starts no more fetches than are dropped of its slot meanwhile, and one besides. So it is whatever turns come before
it, and whatever turns follow. -/
theorem refetch_ends_in_time (network : Http.Network) (caches : Nat) (feeds : List Feed) (past : List Turn) (number : Nat)
    (name : String) (feed : Feed) (known : ((start network caches feeds).turns past).feeds[number]? = some feed) :
    let w := (start network caches feeds).turns past
    let entry := (w.entry feed).1
    let since := ((w.entry feed).2.registry.markStale entry).1
    let asked := w.turn (.command true (.refetch number name))
    w.Begins number name feed entry since ∧
      ∀ later,
        w.started (.command true (.refetch number name)) + asked.startedBy (some w.calls.length) later ≤
          1 + (asked.logs later).releases entry ∧
        ∀ place, asked.placeAfterAll (some w.calls.length) later = some place →
          (asked.turns later).Waiting place feed entry since ∧ (asked.turns later).EndsInTime place feed entry since := by
  intro w entry since asked
  have ready := (ready_start network caches feeds).turns past
  have begins := ready.begins known name
  have after : asked.Ready := ready.turn (.command true (.refetch number name))
  refine ⟨begins, fun later => ⟨?_, ?_⟩⟩
  · obtain ⟨few, fewer⟩ := after.startedBy_le begins.waiting later
    rcases begins.started with none | ⟨one, promises⟩
    · rw [none, Nat.zero_add]
      exact few
    · rw [one]
      exact Nat.add_le_add_left (fewer promises) 1
  · intro place stays
    have waiting := after.waiting_turns begins.waiting stays
    exact ⟨waiting, (after.turns later).endsInTime waiting⟩

/-- The fetch of a call is dropped on its way. The next poll starts another one, and once that has ended the call has its
result: two fetches for one that was dropped. -/
theorem refetch_outlives_restart :
    let w := start (.answering []) 1 [.onLocalhost .default]
    let asked := w.turn (.command true (.refetch 0 "anew"))
    let later : List Turn := [.command true .restart, .poll true 0, .fly 0]
    w.started (.command true (.refetch 0 "anew")) + asked.startedBy (some 0) later = 2 ∧
      (asked.logs later).releases 0 = 1 ∧
      w.started (.command true (.refetch 0 "anew")) + asked.startedBy (some 0) later ≤
        1 + (asked.logs later).releases 0 ∧
      (asked.turns later).answer (.poll true 0) = .result (.ok []) := by
  have ends := refetch_ends_in_time (.answering []) 1 [.onLocalhost .default] [] 0 "anew" _ rfl
  have asked := ends.2 [.command true .restart, .poll true 0, .fly 0]
  exact ⟨rfl, rfl, asked.1, (asked.2 0 rfl).2.ended ⟨rfl, Nat.le_refl 1⟩ |>.1⟩

end World

end ChannelFeed
