import ChannelFeed.Proofs.Feed.Changes

/-!
# Watching

A watch keeps two things in step: the version that its receiver has seen, and the state that it reported last. Between
two polls a slot may be published anew any number of times and come back to where it was; the watch reports what it
then finds, if that is another state, and nothing else. It is closed when the slot has no owner left and there is
nothing more to report.
-/
namespace ChannelFeed

open Cache

/-- A look of a watch: what it reported, the state that was there, and whether the slot had an owner. -/
structure Look where
  news : Watch.News
  state : ChannelState
  isOwned : Bool

namespace Watch

/-- What is to be reported of a state, given the one that was reported last. -/
def due (state : ChannelState) (isOwned : Bool) (last : ChannelState) : News :=
  if state.same last then (if isOwned then .pending else .closed) else .changed state.shown

/-- The state that was reported last, or that at the beginning. The newest look comes first. -/
def reported (first : ChannelState) : List Look → ChannelState
  | [] => first
  | look :: earlier =>
    match look.news with
    | .changed _ => look.state
    | _ => reported first earlier

/-- The channels that were reported last, or those at the beginning. -/
def listed (first : ChannelState) : List Look → List Channel
  | [] => first.shown
  | look :: earlier =>
    match look.news with
    | .changed channels => channels
    | _ => listed first earlier

/-- The looks of a watch are as they should be: each reports what is due, after each the state reported last is that of
the slot, and after one that finds the watch closed so do all others. -/
structure Faithful (first : ChannelState) (looks : List Look) : Prop where
  news : ∀ look earlier, look :: earlier <:+ looks →
    look.news = due look.state look.isOwned (reported first earlier)
  upToDate : ∀ look earlier, look :: earlier <:+ looks →
    look.state.same (reported first (look :: earlier)) = true ∧
      Channel.sameList look.state.shown (listed first (look :: earlier)) = true
  closed : ∀ later look earlier, looks = later ++ look :: earlier → look.news = .closed →
    ∀ l ∈ later, l.news = .closed

variable {x : Watch} {r : Registry (List Channel)} {first : ChannelState} {look : Look} {earlier : List Look}

/-- A watch is closed exactly if its slot has no owner and the state of now has been reported. -/
theorem due_eq_closed {state last : ChannelState} {isOwned : Bool} :
    due state isOwned last = .closed ↔ state.same last = true ∧ isOwned = false := by
  cases same : state.same last <;> cases isOwned <;> simp [due, same]

/-- A poll reports what is due and sees the version of now, if a version that was seen shows no other state than the
last one. -/
theorem poll_eq (isOwned : Bool)
    (kept : x.receiver.seen = (r.cell x.receiver.entry).version → (x.state r).same x.last = true) :
    x.poll r isOwned =
      (due (x.state r) isOwned x.last, ⟨x.receiver.caughtUp r, if (x.state r).same x.last then x.last else x.state r⟩) := by
  unfold poll Receiver.poll
  cases behind : x.receiver.isBehind r with
  | true =>
    cases same : (x.state r).same x.last <;> simp [due, same]
  | false =>
    have seen : x.receiver.seen = (r.cell x.receiver.entry).version := (bne_eq_false_iff_eq.mp behind).symm
    have caughtUp : x.receiver.caughtUp r = x.receiver := by rw [Receiver.caughtUp, ← seen]
    rw [caughtUp, due, kept seen]
    cases isOwned <;> rfl

theorem reported_cons (reports : look.news = due look.state look.isOwned (reported first earlier)) :
    reported first (look :: earlier) =
      if look.state.same (reported first earlier) then reported first earlier else look.state := by
  cases same : look.state.same (reported first earlier) with
  | true => cases owned : look.isOwned <;> simp [reported, reports, due, same, owned]
  | false => simp [reported, reports, due, same]

theorem same_reported (reports : look.news = due look.state look.isOwned (reported first earlier)) :
    look.state.same (reported first (look :: earlier)) = true := by
  rw [reported_cons reports]
  split
  · next same => exact same
  · exact ChannelState.same_self look.state

/-- The channels reported last are those of the state reported last. -/
theorem listed_cons (reports : look.news = due look.state look.isOwned (reported first earlier))
    (before : listed first earlier = (reported first earlier).shown) :
    listed first (look :: earlier) = (reported first (look :: earlier)).shown := by
  cases same : look.state.same (reported first earlier) with
  | true => cases owned : look.isOwned <;> simp [listed, reported, reports, due, same, owned, before]
  | false => simp [listed, reported, reports, due, same]

namespace Faithful

variable {looks : List Look}

theorem nil (first : ChannelState) : Faithful first [] where
  news := by
    intro look earlier suffix
    cases List.suffix_nil.mp suffix
  upToDate := by
    intro look earlier suffix
    cases List.suffix_nil.mp suffix
  closed := by
    intro later look earlier same
    cases (List.append_eq_nil_iff.mp same.symm).2

theorem listed_eq (faithful : Faithful first looks) : listed first looks = (reported first looks).shown := by
  have each : ∀ earlier, earlier <:+ looks → listed first earlier = (reported first earlier).shown := by
    intro earlier
    induction earlier with
    | nil => exact fun _ => rfl
    | cons look earlier ih =>
      intro suffix
      exact listed_cons (faithful.news look earlier suffix) (ih ((List.suffix_cons look earlier).trans suffix))
  exact each looks (List.suffix_refl _)

theorem cons (faithful : Faithful first looks)
    (reports : look.news = due look.state look.isOwned (reported first looks))
    (closed : ∀ l ∈ looks, l.news = .closed → look.news = .closed) : Faithful first (look :: looks) where
  news := by
    intro l earlier suffix
    rcases List.suffix_cons_iff.mp suffix with same | older
    · obtain ⟨rfl, rfl⟩ := List.cons.inj same
      exact reports
    · exact faithful.news l earlier older
  upToDate := by
    intro l earlier suffix
    rcases List.suffix_cons_iff.mp suffix with same | older
    · obtain ⟨rfl, rfl⟩ := List.cons.inj same
      have equal := same_reported reports
      rw [listed_cons reports faithful.listed_eq]
      exact ⟨equal, ChannelState.sameList_shown equal⟩
    · exact faithful.upToDate l earlier older
  closed := by
    intro later l earlier split ends
    rcases List.cons_eq_append_iff.mp split with ⟨rfl, -⟩ | ⟨newer, rfl, older⟩
    · exact fun _ none => absurd none List.not_mem_nil
    · intro m there
      rcases List.mem_cons.mp there with rfl | there
      · refine closed l ?_ ends
        rw [older]
        exact List.mem_append_right _ List.mem_cons_self
      · exact faithful.closed newer l earlier older ends m there

end Faithful

end Watch

/-- What goes on around a watch: how it begins, what it may become, and who publishes the slots. -/
structure System (σ : Type) where
  begins : σ → Prop
  goes : σ → σ → Prop
  registry : σ → Registry (List Channel)
  isOwned : σ → EntryId → Bool

namespace System

variable {σ : Type} {S : System σ} {s t : σ}

def state (S : System σ) (s : σ) (entry : EntryId) : ChannelState := ((S.registry s).slot entry).state

def Reached (S : System σ) (s : σ) : Prop := ∃ first, S.begins first ∧ Relation.ReflTransGen S.goes first s

theorem Reached.goes (reached : S.Reached s) (goes : S.goes s t) : S.Reached t := by
  obtain ⟨first, begins, run⟩ := reached
  exact ⟨first, begins, run.tail goes⟩

/-- Slots are only published anew, and none is that has no owner. -/
structure Steady (S : System σ) : Prop where
  precedes : ∀ {s t}, S.Reached s → S.goes s t → ∀ entry,
    ((S.registry s).cell entry).Precedes ((S.registry t).cell entry) ∧
      (S.registry s).cells.length ≤ (S.registry t).cells.length
  unowned : ∀ {s t}, S.Reached s → S.goes s t → ∀ entry, entry < (S.registry s).cells.length →
    S.isOwned s entry = false → S.isOwned t entry = false ∧ (S.registry t).cell entry = (S.registry s).cell entry

end System

/-- A watch of a slot in a run, with all its looks, the newest first. Its receiver may have been made before the first
state was read. It is polled at any time. -/
inductive Watched {σ : Type} (S : System σ) (entry : EntryId) (first : ChannelState) : List Look → Watch → σ → Prop where
  | begun {s : σ} {made read : Registry (List Channel)} : S.Reached s → entry < (S.registry s).cells.length →
    (made.cell entry).Precedes (read.cell entry) → (read.cell entry).Precedes ((S.registry s).cell entry) →
    first = (read.slot entry).state → Watched S entry first [] ⟨.subscribe made entry, first⟩ s
  | goes {s t : σ} {looks : List Look} {x : Watch} :
    Watched S entry first looks x s → S.goes s t → Watched S entry first looks x t
  | polled {s : σ} {looks : List Look} {x : Watch} : Watched S entry first looks x s →
    Watched S entry first
      (⟨(x.poll (S.registry s) (S.isOwned s entry)).1, S.state s entry, S.isOwned s entry⟩ :: looks)
      (x.poll (S.registry s) (S.isOwned s entry)).2 s

namespace Watched

/-- What holds of a watch at any time. -/
structure Attentive {σ : Type} (S : System σ) (entry : EntryId) (first : ChannelState) (looks : List Look) (x : Watch)
    (s : σ) : Prop where
  reached : S.Reached s
  made : entry < (S.registry s).cells.length
  on : x.receiver.entry = entry
  last : x.last = Watch.reported first looks
  seen : x.receiver.seen ≤ ((S.registry s).cell entry).version
  kept : x.receiver.seen = ((S.registry s).cell entry).version →
    (S.state s entry).same x.last = true
  closed : (∃ look ∈ looks, look.news = .closed) →
    S.isOwned s entry = false ∧ (S.state s entry).same x.last = true
  faithful : Watch.Faithful first looks

variable {σ : Type} {S : System σ} {entry : EntryId} {first : ChannelState} {looks : List Look} {x : Watch} {s t : σ}

namespace Attentive

theorem begun {made read : Registry (List Channel)} (reached : S.Reached s)
    (there : entry < (S.registry s).cells.length) (early : (made.cell entry).Precedes (read.cell entry))
    (late : (read.cell entry).Precedes ((S.registry s).cell entry)) :
    Attentive S entry (read.slot entry).state [] ⟨.subscribe made entry, (read.slot entry).state⟩ s where
  reached := reached
  made := there
  on := rfl
  last := rfl
  seen := (early.trans late).version
  kept := by
    intro seen
    have unseen : ((S.registry s).cell entry).version = (made.cell entry).version := seen.symm
    have whole : (S.registry s).cell entry = made.cell entry := (early.trans late).same unseen
    have part : read.cell entry = made.cell entry :=
      early.same (Nat.le_antisymm (unseen ▸ late.version) early.version)
    rw [System.state, Registry.slot, whole, Registry.slot, part]
    exact ChannelState.same_self _
  closed := by
    rintro ⟨look, none, -⟩
    cases none
  faithful := .nil _

theorem goes (attentive : Attentive S entry first looks x s) (steady : S.Steady) (goes : S.goes s t) :
    Attentive S entry first looks x t := by
  obtain ⟨precedes, grows⟩ := steady.precedes attentive.reached goes entry
  exact {
    reached := attentive.reached.goes goes
    made := Nat.lt_of_lt_of_le attentive.made grows
    on := attentive.on
    last := attentive.last
    seen := Nat.le_trans attentive.seen precedes.version
    kept := by
      intro seen
      have version := Nat.le_antisymm (seen ▸ attentive.seen) precedes.version
      rw [System.state, Registry.slot, precedes.same version]
      exact attentive.kept (seen.trans version)
    closed := by
      intro ended
      obtain ⟨gone, same⟩ := attentive.closed ended
      obtain ⟨still, cell⟩ := steady.unowned attentive.reached goes entry attentive.made gone
      rw [System.state, Registry.slot, cell]
      exact ⟨still, same⟩
    faithful := attentive.faithful }

theorem polled (attentive : Attentive S entry first looks x s) :
    Attentive S entry first
      (⟨(x.poll (S.registry s) (S.isOwned s entry)).1, S.state s entry, S.isOwned s entry⟩ :: looks)
      (x.poll (S.registry s) (S.isOwned s entry)).2 s := by
  obtain rfl : x.receiver.entry = entry := attentive.on
  let last := Watch.reported first looks
  let look : Look := ⟨Watch.due (S.state s x.receiver.entry) (S.isOwned s x.receiver.entry) last,
    S.state s x.receiver.entry, S.isOwned s x.receiver.entry⟩
  have came : x.poll (S.registry s) (S.isOwned s x.receiver.entry) =
      (look.news, ⟨x.receiver.caughtUp (S.registry s), if look.state.same last then last else look.state⟩) := by
    rw [Watch.poll_eq (S.isOwned s x.receiver.entry) attentive.kept, attentive.last]
    rfl
  rw [came]
  have reported : Watch.reported first (look :: looks) = if look.state.same last then last else look.state :=
    Watch.reported_cons rfl
  have same : look.state.same (Watch.reported first (look :: looks)) = true := Watch.same_reported rfl
  have closed (l : Look) (there : l ∈ looks) (ends : l.news = .closed) : look.news = .closed := by
    obtain ⟨gone, same⟩ := attentive.closed ⟨l, there, ends⟩
    rw [attentive.last] at same
    exact Watch.due_eq_closed.mpr ⟨same, gone⟩
  exact {
    reached := attentive.reached
    made := attentive.made
    on := rfl
    last := reported.symm
    seen := Nat.le_refl _
    kept := fun _ => reported ▸ same
    closed := by
      rintro ⟨l, there, ends⟩
      have ended : look.news = .closed := by
        rcases List.mem_cons.mp there with rfl | older
        · exact ends
        · exact closed l older ends
      exact ⟨(Watch.due_eq_closed.mp ended).2, reported ▸ same⟩
    faithful := attentive.faithful.cons rfl closed }

end Attentive

theorem attentive (watched : Watched S entry first looks x s) (steady : S.Steady) :
    Attentive S entry first looks x s := by
  induction watched with
  | begun reached there early late same =>
    subst same
    exact .begun reached there early late
  | goes before goes ih => exact ih.goes steady goes
  | polled before ih => exact ih.polled

end Watched

/-- Many threads, each of which does one thing after another. -/
def Cache.Owned.system : System (Owned (List Channel)) where
  begins o := ∃ caches, .start caches = o
  goes o p := ∃ d, o.step d = some p
  registry o := o.shared.registry
  isOwned := Owned.isOwned

def World.system : System World where
  begins w := ∃ network caches feeds, .start network caches feeds = w
  goes w w' := ∃ turn, w.turn turn = w'
  registry w := w.registry
  isOwned := World.isOwned

namespace Cache.Owned

theorem sound_of_reached {o : Owned (List Channel)} (reached : system.Reached o) : o.shared.Sound := by
  obtain ⟨_, ⟨caches, rfl⟩, run⟩ := reached
  induction run with
  | refl => exact Shared.sound_start caches
  | tail earlier goes ih =>
    obtain ⟨d, done⟩ := goes
    exact sound_step ih done

theorem steady : system.Steady where
  precedes := by
    rintro o p reached ⟨d, done⟩ entry
    exact ⟨precedes_step (sound_of_reached reached) done entry, length_step done⟩
  unowned := by
    rintro o p reached ⟨d, done⟩ entry made gone
    exact unowned_step (sound_of_reached reached) made done gone

end Cache.Owned

namespace World

theorem ready_of_reached {w : World} (reached : system.Reached w) : w.Ready := by
  obtain ⟨_, ⟨network, caches, feeds, rfl⟩, run⟩ := reached
  induction run with
  | refl => exact ready_start network caches feeds
  | tail earlier goes ih =>
    obtain ⟨turn, rfl⟩ := goes
    exact ih.turn turn

theorem steady : system.Steady where
  precedes := by
    rintro w _ reached ⟨turn, rfl⟩ entry
    exact (becomes_turn (ready_of_reached reached) turn).precedes entry
  unowned := by
    rintro w _ reached ⟨turn, rfl⟩ entry made gone
    exact (becomes_turn (ready_of_reached reached) turn).unowned made (Nat.le_refl _) gone

theorem watched_of_turn {w : World} (reached : system.Reached w) (turn : Turn)
    (each : ∀ x ∈ w.watches.things ++ w.streams.things, ∃ entry first looks, Watched system entry first looks x w) :
    ∀ x ∈ (w.turn turn).watches.things ++ (w.turn turn).streams.things,
      ∃ entry first looks, Watched system entry first looks x (w.turn turn) := by
  have going : system.goes w (w.turn turn) := ⟨turn, rfl⟩
  obtain ⟨m, watches, streams, changes, same, holds⟩ := becomes_turn (ready_of_reached reached) turn
  have still : ∀ x ∈ m.watches.things ++ m.streams.things,
      ∃ entry first looks, Watched system entry first looks x (w.turn turn) := by
    intro x there
    rw [changes.watches.1, changes.watches.2] at there
    obtain ⟨entry, first, looks, watched⟩ := each x there
    exact ⟨entry, first, looks, watched.goes going⟩
  have registry : system.registry (w.turn turn) = m.registry := by rw [same]; rfl
  have isOwned : system.isOwned (w.turn turn) = m.isOwned := by rw [same]; rfl
  intro x there
  rw [same] at there
  cases holds x there with
  | kept old => exact still x old
  | @polled old before polled =>
    obtain ⟨entry, first, looks, watched⟩ := still old before
    have now := watched.polled
    rw [registry, isOwned, ← (watched.attentive steady).on] at now
    exact ⟨_, _, _, polled ▸ now⟩
  | @made r entry made precedes begun =>
    rw [← registry] at made precedes
    exact ⟨entry, (r.slot entry).state, [], begun ▸ .begun (reached.goes going) made (.refl _) precedes rfl⟩

theorem watched_of_turns {w : World} (reached : system.Reached w) (turns : List Turn)
    (each : ∀ x ∈ w.watches.things ++ w.streams.things, ∃ entry first looks, Watched system entry first looks x w) :
    ∀ x ∈ (w.turns turns).watches.things ++ (w.turns turns).streams.things,
      ∃ entry first looks, Watched system entry first looks x (w.turns turns) := by
  induction turns generalizing w with
  | nil => exact each
  | cons turn turns ih => exact ih (reached.goes ⟨turn, rfl⟩) (watched_of_turn reached turn each)

theorem reached_start (network : Http.Network) (caches : Nat) (feeds : List Feed) :
    system.Reached (start network caches feeds) := ⟨_, ⟨network, caches, feeds, rfl⟩, .refl⟩

end World

/-- A watch loses no change, reports nothing else, and is closed only at the end, however often it is polled and
whatever is done to slots and keys between: by many threads whose accesses are mixed, or in the turns of a world. Every
watch of a world has been watched since it was made, and its next poll reports what is due. -/
theorem watch_misses_nothing :
    (∀ {entry : EntryId} {first : ChannelState} {looks : List Look} {x : Watch} {o : Owned (List Channel)},
      Watched Owned.system entry first looks x o → Watch.Faithful first looks) ∧
    (∀ {entry : EntryId} {first : ChannelState} {looks : List Look} {x : Watch} {w : World},
      Watched World.system entry first looks x w → Watch.Faithful first looks) ∧
    ∀ (network : Http.Network) (caches : Nat) (feeds : List Feed) (turns : List Turn),
      let w := (World.start network caches feeds).turns turns
      ∀ x ∈ w.watches.things ++ w.streams.things, ∃ first looks,
        Watched World.system x.receiver.entry first looks x w ∧
          (w.pollWatch x).1 =
            Watch.due (x.state w.registry) (w.isOwned x.receiver.entry) (Watch.reported first looks) := by
  refine ⟨?_, ?_, ?_⟩
  · intro entry first looks x o watched
    exact (watched.attentive Owned.steady).faithful
  · intro entry first looks x w watched
    exact (watched.attentive World.steady).faithful
  · intro network caches feeds turns
    have begun := World.reached_start network caches feeds
    have each := World.watched_of_turns begun turns fun x none => nomatch none
    generalize (World.start network caches feeds).turns turns = w at each ⊢
    intro w x there
    obtain ⟨entry, first, looks, watched⟩ := each x there
    have attentive := watched.attentive World.steady
    obtain rfl := attentive.on
    refine ⟨first, looks, watched, ?_⟩
    rw [← attentive.last]
    exact congrArg Prod.fst (Watch.poll_eq _ attentive.kept)

/-- A watch that is polled after a fetch has brought channels, and again when the key is gone. -/
theorem watch_reports_then_closes :
    ∃ (x : Watch) (w : World),
      Watched World.system 0 .pending [⟨.closed, .ready [], false⟩, ⟨.changed [], .ready [], true⟩] x w ∧
        Watch.Faithful .pending [⟨.closed, .ready [], false⟩, ⟨.changed [], .ready [], true⟩] := by
  let begun := World.start (.answering []) 1 [.onLocalhost .default]
  let subscribed := begun.turn (.command false (.subscribe 0 "watch"))
  let claimed := subscribed.turn (.command true (.claim 0 "claim"))
  let settled := claimed.turn (.command true (.settle "claim" (.ready [])))
  let cleared := settled.turn (.command true (.cacheClear 0))
  have reached : World.system.Reached subscribed := (World.reached_start _ _ _).goes ⟨_, rfl⟩
  have first : Watched World.system 0 .pending [] ⟨.subscribe subscribed.registry 0, .pending⟩ subscribed :=
    .begun reached (by decide) (.refl _) (.refl _) rfl
  have waited : Watched World.system 0 .pending [] ⟨⟨0, 0⟩, .pending⟩ settled :=
    (first.goes (t := claimed) ⟨_, rfl⟩).goes ⟨_, rfl⟩
  have changed : Watched World.system 0 .pending [⟨.changed [], .ready [], true⟩] ⟨⟨0, 2⟩, .ready []⟩ settled :=
    waited.polled
  have closed : Watched World.system 0 .pending [⟨.closed, .ready [], false⟩, ⟨.changed [], .ready [], true⟩]
      ⟨⟨0, 2⟩, .ready []⟩ cleared := (changed.goes (t := cleared) ⟨_, rfl⟩).polled
  exact ⟨_, cleared, closed, watch_misses_nothing.2.1 closed⟩

end ChannelFeed
