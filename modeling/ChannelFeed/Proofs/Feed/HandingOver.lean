import ChannelFeed.Proofs.Feed.Lookouts
import ChannelFeed.Proofs.Feed.SideBySide

/-!
# Handing a watch over to a stream

A stream takes over what its watch has seen and what it reported last. A world in which the stream is polled goes on
beside the one in which the watch was kept and is polled in the same turns, and both hear the same. Main statement:
`lookouts_can_be_dropped`.
-/
namespace ChannelFeed

open Cache

def Command.watch? : Command → Option String
  | .subscribe _ name | .current name | .watchState name | .changed name | .intoStream name _ => some name
  | _ => none

def Command.stream? : Command → Option String
  | .intoStream _ name | .next name => some name
  | _ => none

/-- A turn in which neither the watch nor the stream of some names is used. -/
def Turn.Spares (watch stream : String) : Turn → Prop
  | .command _ asked => asked.watch? ≠ some watch ∧ asked.stream? ≠ some stream
  | _ => True

/-- The turn with a poll of the stream in place of one of the watch. -/
def Turn.streamed (watch stream : String) : Turn → Turn
  | .command inRuntime (.changed name) => .command inRuntime (if name = watch then .next stream else .changed name)
  | turn => turn

theorem Turn.Spares.streamed {watch stream : String} {turn : Turn} (spares : turn.Spares watch stream) :
    turn.streamed watch stream = turn := by
  unfold Turn.streamed
  split
  · next inRuntime name =>
    have other : name ≠ watch := fun same => spares.1 (congrArg some same)
    rw [if_neg other]
  · rfl

/-- The same things have the same names, but for one name. -/
def Names.AgreeBut {α : Type} (name : String) (some other : Names α) : Prop :=
  ∀ n, n ≠ name → some.get? n = other.get? n

namespace Names.AgreeBut

variable {α : Type} {name other : String} {here there : Names α}

theorem refl (name : String) (names : Names α) : AgreeBut name names names := fun _ _ => rfl

theorem put (agree : AgreeBut name here there) (other : String) (thing : α) :
    AgreeBut name (here.put other thing) (there.put other thing) := by
  intro n different
  rw [get?_put, get?_put, agree n different]

theorem erase (agree : AgreeBut name here there) (other : String) :
    AgreeBut name (here.erase other) (there.erase other) := by
  intro n different
  rw [get?_erase, get?_erase, agree n different]

theorem afterNext {here there : Names Watch} (agree : AgreeBut name here there) (other : String)
    (polled : Watch.News × Watch) :
    AgreeBut name (World.afterNext here other polled) (World.afterNext there other polled) := by
  obtain ⟨news, x⟩ := polled
  cases news with
  | closed => exact agree.erase other
  | changed | pending => exact agree.put other x

end Names.AgreeBut

namespace World

/-- The world with other watches and streams in hands. -/
abbrev holding (w : World) (watches streams : Names Watch) : World := w.dressed ({ · with watches, streams })

/-- Something that is done alike whatever watches and streams are in hands, and that leaves them. -/
def Heedless {β : Type} (f : World → β × World) : Prop :=
  ∀ w watches streams, f (w.holding watches streams) = ((f w).1, (f w).2.holding watches streams)

variable {β : Type} {f : World → β × World}

theorem Unseeing.heedless (unseeing : Unseeing f) : Heedless f := fun w _ _ => unseeing w _

theorem Heedless.keeps (heedless : Heedless f) (w : World) :
    (f w).2.watches = w.watches ∧ (f w).2.streams = w.streams := by
  have same : (f w).2 = (f w).2.holding w.watches w.streams := congrArg Prod.snd (heedless w w.watches w.streams)
  refine ⟨?_, ?_⟩ <;> rw [same] <;> rfl

theorem heedless_begin (inRuntime : Bool) (name : String) (c : Call) : Heedless (·.begin inRuntime name c) := by
  intro w watches streams
  have polled := (unseeing_pollCall inRuntime c).heedless w watches streams
  simp only [begin, polled]
  obtain ⟨polled, w'⟩ := w.pollCall inRuntime c
  cases polled <;> rfl

theorem heedless_step (inRuntime : Bool) {command : Command} (noWatch : command.watch? = none)
    (noStream : command.stream? = none) : Heedless (·.step inRuntime command) := by
  cases command with
  | subscribe | current | watchState | changed | intoStream => cases noWatch
  | next => cases noStream
  | load number name =>
    intro w watches streams
    refine withHandle_alike (·.holding watches streams) w fun feed => ?_
    exact heedless_begin inRuntime name (.load feed (w.entry feed).1) (w.entry feed).2 watches streams
  | refetch number name =>
    intro w watches streams
    refine withHandle_alike (·.holding watches streams) w fun feed => ?_
    exact heedless_begin inRuntime name
      (.refetch feed (w.entry feed).1 ((w.entry feed).2.registry.markStale (w.entry feed).1).1)
      { w with registry := ((w.entry feed).2.registry.markStale (w.entry feed).1).2 } watches streams
  | cancel name =>
    intro w watches streams
    have same : (w.holding watches streams).calls = w.calls := rfl
    simp only [step, same]
    cases w.calls.lookup name <;> rfl
  | _ => exact (unseeing_step inRuntime rfl).heedless

theorem heedless_poll (inRuntime : Bool) (place : Nat) :
    Heedless fun w => (w.answer (.poll inRuntime place), w.turn (.poll inRuntime place)) := by
  intro w watches streams
  have same : (w.holding watches streams).calls = w.calls := rfl
  dsimp only
  cases there : w.calls[place]? with
  | none =>
    simp only [answer, turn, same, there]
  | some pair =>
    obtain ⟨name, c⟩ := pair
    have polled := (unseeing_pollCall inRuntime c).heedless w watches streams
    rw [turn_poll (same ▸ there), turn_poll there]
    simp only [answer, same, there, polled]
    rfl

theorem heedless_fly (place : Nat) : Heedless fun w => (w.answer (.fly place), w.turn (.fly place)) :=
  ((unseeing_fly place).map fun _ => Answer.nothing).heedless

/-- A world in which a stream took over a watch, beside the one in which the watch was kept: all else is the same. -/
inductive HandedOver (watch stream : String) (w : World) : World → Prop where
  | intro {watches streams : Names Watch} (others : watches.AgreeBut watch w.watches)
    (other : streams.AgreeBut stream w.streams) : HandedOver watch stream w (w.holding watches streams)

theorem HandedOver.world {w u : World} {watch stream : String} (handed : HandedOver watch stream w u) :
    ∃ watches streams, u = w.holding watches streams := by
  obtain @⟨watches, streams, -, -⟩ := handed
  exact ⟨watches, streams, rfl⟩

/-- Both worlds have gone on, with neither the watch nor the stream being used: the same was told, and what the watch
and the stream have seen is left. -/
structure Spared (watch stream : String) (w u : World) (told told' : Answer × World) : Prop where
  answer : told'.1 = told.1
  handed : HandedOver watch stream told.2 told'.2
  watch : told.2.watches.get? watch = w.watches.get? watch
  stream : told'.2.streams.get? stream = u.streams.get? stream

variable {w u : World} {watch stream : String} {inRuntime : Bool}

theorem Heedless.spared {f : World → Answer × World} (heedless : Heedless f) (handed : HandedOver watch stream w u) :
    Spared watch stream w u (f w) (f u) := by
  obtain ⟨others, other⟩ := handed
  obtain ⟨kept, left⟩ := heedless.keeps w
  rw [heedless]
  exact ⟨rfl, .intro (kept ▸ others) (left ▸ other), congrArg (Names.get? · watch) kept, rfl⟩

theorem HandedOver.spared_withHandle {α : Type} {handle handle' : Option α} {g g' : α → Answer × World}
    (handed : HandedOver watch stream w u) (same : handle' = handle)
    (each : ∀ x, Spared watch stream w u (g x) (g' x)) :
    Spared watch stream w u (w.withHandle handle g) (u.withHandle handle' g') := by
  rw [same]
  cases handle with
  | none => exact ⟨rfl, handed, rfl, rfl⟩
  | some x => exact each x

theorem HandedOver.spared_subscribe (handed : HandedOver watch stream w u) (feed : Feed) {name : String}
    (different : name ≠ watch) :
    Spared watch stream w u (.nothing, w.subscribe inRuntime feed name)
      (.nothing, u.subscribe inRuntime feed name) := by
  obtain @⟨watches, streams, others, other⟩ := handed
  have started := unseeing_startFetch inRuntime feed (w.entry feed).1
  obtain ⟨-, kept, left⟩ := started.keeps (w.entry feed).2
  have fetching := started.heedless (w.entry feed).2 watches streams
  have looked : (w.holding watches streams).entry feed =
      ((w.entry feed).1, (w.entry feed).2.holding watches streams) := rfl
  simp only [subscribe, looked, fetching]
  generalize (w.entry feed).2.startFetch inRuntime feed (w.entry feed).1 = result at kept left
  refine ⟨rfl, .intro ?_ ?_, ?_, rfl⟩
  · exact Names.AgreeBut.put (kept ▸ others) name _
  · exact left ▸ other
  · rw [Names.get?_put, if_neg different.symm, kept]
    rfl

theorem HandedOver.spared_next (handed : HandedOver watch stream w u) {name : String} (different : name ≠ stream) :
    Spared watch stream w u (w.step inRuntime (.next name)) (u.step inRuntime (.next name)) := by
  obtain @⟨watches, streams, others, other⟩ := handed
  have same : (w.holding watches streams).streams.get? name = w.streams.get? name := other name different
  cases found : w.streams.get? name with
  | none =>
    rw [step_next_none found, step_next_none (same.trans found)]
    exact ⟨rfl, .intro others other, rfl, rfl⟩
  | some x =>
    rw [step_next found, step_next (same.trans found)]
    refine ⟨rfl, .intro others ?_, rfl, get?_afterNext _ different.symm⟩
    exact other.afterNext name _

theorem HandedOver.spared (handed : HandedOver watch stream w u) {turn : Turn} (spares : turn.Spares watch stream) :
    Spared watch stream w u (w.answer turn, w.turn turn) (u.answer turn, u.turn turn) := by
  cases turn with
  | poll inRuntime place => exact (heedless_poll inRuntime place).spared handed
  | fly place => exact (heedless_fly place).spared handed
  | command inRuntime command =>
    obtain ⟨otherWatch, otherStream⟩ := spares
    change Spared watch stream w u (w.step inRuntime command) (u.step inRuntime command)
    cases command with
    | subscribe number name =>
      have feeds : u.feeds = w.feeds := by cases handed; rfl
      have different : name ≠ watch := fun same => otherWatch (congrArg some same)
      exact handed.spared_withHandle (congrArg (·[number]?) feeds) fun feed => handed.spared_subscribe feed different
    | current name | watchState name =>
      have different : name ≠ watch := fun same => otherWatch (congrArg some same)
      obtain ⟨others, other⟩ := handed
      exact HandedOver.spared_withHandle (.intro others other) (others name different)
        fun x => ⟨rfl, .intro others other, rfl, rfl⟩
    | changed name =>
      have different : name ≠ watch := fun same => otherWatch (congrArg some same)
      obtain ⟨others, other⟩ := handed
      refine HandedOver.spared_withHandle (.intro others other) (others name different) fun x => ?_
      refine ⟨rfl, .intro (others.put name _) other, ?_, rfl⟩
      exact (Names.get?_put ..).trans (if_neg different.symm)
    | intoStream name target =>
      have different : name ≠ watch := fun same => otherWatch (congrArg some same)
      have apart : target ≠ stream := fun same => otherStream (congrArg some same)
      obtain ⟨others, other⟩ := handed
      refine HandedOver.spared_withHandle (.intro others other) (others name different) fun x => ?_
      refine ⟨rfl, .intro (others.erase name) (other.put target x), ?_, ?_⟩
      · exact (Names.get?_erase ..).trans (if_neg different.symm)
      · exact (Names.get?_put ..).trans (if_neg apart.symm)
    | next name => exact handed.spared_next fun same => otherStream (congrArg some same)
    | _ => exact (heedless_step inRuntime rfl rfl).spared handed

/-! ## Polls of the stream and of the watch -/

/-- In some turns the watch of a name is found closed. -/
inductive FoundClosed (watch : String) : World → List Turn → Prop where
  | here {w : World} {inRuntime : Bool} {later : List Turn} :
    w.answer (.command inRuntime (.changed watch)) = .news .closed →
      FoundClosed watch w (.command inRuntime (.changed watch) :: later)
  | later {w : World} {turn : Turn} {later : List Turn} :
    FoundClosed watch (w.turn turn) later → FoundClosed watch w (turn :: later)

/-- The stream has in hands what the watch has. -/
structure Going (watch stream : String) (w u : World) : Prop where
  handed : HandedOver watch stream w u
  same : ∃ x, w.watches.get? watch = some x ∧ u.streams.get? stream = some x

/-- The stream has ended, and the watch has nothing more to report. -/
structure Ended (watch stream : String) (w u : World) : Prop where
  handed : HandedOver watch stream w u
  spent : ∃ x, w.watches.get? watch = some x ∧ w.Spent x
  gone : u.streams.get? stream = none

theorem Going.spared (going : Going watch stream w u) {turn : Turn} (spares : turn.Spares watch stream) :
    Going watch stream (w.turn turn) (u.turn turn) := by
  obtain ⟨handed, x, there, here⟩ := going
  have spared := handed.spared spares
  exact ⟨spared.handed, x, spared.watch.trans there, spared.stream.trans here⟩

theorem Ended.spared (ended : Ended watch stream w u) (ready : w.Ready) {turn : Turn}
    (spares : turn.Spares watch stream) : Ended watch stream (w.turn turn) (u.turn turn) := by
  obtain ⟨handed, ⟨x, there, spent⟩, gone⟩ := ended
  have spared := handed.spared spares
  exact ⟨spared.handed, ⟨x, spared.watch.trans there, spent.turn ready turn⟩, spared.stream.trans gone⟩

theorem step_changed {x : Watch} (found : w.watches.get? watch = some x) (inRuntime : Bool) :
    w.step inRuntime (.changed watch) =
      (.news (w.pollWatch x).1, w.holding (w.watches.put watch (w.pollWatch x).2) w.streams) := by
  simp only [step, found, withHandle]
  rfl

theorem HandedOver.polled (handed : HandedOver watch stream w u) {x : Watch}
    (there : w.watches.get? watch = some x) (here : u.streams.get? stream = some x) :
    u.answer (.command inRuntime (.next stream)) = w.answer (.command inRuntime (.changed watch)) ∧
      HandedOver watch stream (w.turn (.command inRuntime (.changed watch)))
        (u.turn (.command inRuntime (.next stream))) ∧
      (u.turn (.command inRuntime (.next stream))).streams.get? stream =
        match (w.pollWatch x).1 with
        | .closed => none
        | _ => some (w.pollWatch x).2 := by
  simp only [answer, turn]
  rw [step_next here, step_changed there]
  obtain @⟨watches, streams, others, other⟩ := handed
  refine ⟨rfl, .intro (fun n different => ?_) (fun n different => ?_), get?_afterNext_self streams stream _⟩
  · exact (others n different).trans ((Names.get?_put ..).trans (if_neg different)).symm
  · exact (get?_afterNext _ different).trans (other n different)

theorem unowned_of_closed {x : Watch} {r : Registry (List Channel)} {isOwned : Bool}
    (closed : (x.poll r isOwned).1 = .closed) : isOwned = false := by
  cases isOwned with
  | false => rfl
  | true =>
    unfold Watch.poll Receiver.poll at closed
    cases behind : x.receiver.isBehind r with
    | false => simp [behind] at closed
    | true => cases same : (x.state r).same x.last <;> simp [behind, same] at closed

theorem spent_of_closed (reached : system.Reached w) {x : Watch} (found : w.watches.get? watch = some x)
    (closed : (w.pollWatch x).1 = .closed) : w.Spent (w.pollWatch x).2 := by
  have unowned : w.isOwned x.receiver.entry = false := unowned_of_closed closed
  have made := watch_made reached (List.mem_append_left _ (Names.mem_things_of_get? found))
  rw [pollWatch, unowned] at closed
  exact Spent.polled ⟨made, unowned, closed⟩ _

/-- The stream is told what the watch is, and goes on unless that is the end. -/
theorem Going.polled (going : Going watch stream w u) (reached : system.Reached w) (inRuntime : Bool) :
    u.answer (.command inRuntime (.next stream)) = w.answer (.command inRuntime (.changed watch)) ∧
      (w.answer (.command inRuntime (.changed watch)) = .news .closed →
        Ended watch stream (w.turn (.command inRuntime (.changed watch)))
          (u.turn (.command inRuntime (.next stream)))) ∧
      (w.answer (.command inRuntime (.changed watch)) ≠ .news .closed →
        Going watch stream (w.turn (.command inRuntime (.changed watch)))
          (u.turn (.command inRuntime (.next stream)))) := by
  obtain ⟨handed, x, there, here⟩ := going
  obtain ⟨told, both, left⟩ := handed.polled there here
  have hears : w.answer (.command inRuntime (.changed watch)) = .news (w.pollWatch x).1 :=
    congrArg Prod.fst (step_changed there inRuntime)
  have goes : w.turn (.command inRuntime (.changed watch)) =
      w.holding (w.watches.put watch (w.pollWatch x).2) w.streams := congrArg Prod.snd (step_changed there inRuntime)
  have kept : (w.turn (.command inRuntime (.changed watch))).watches.get? watch = some (w.pollWatch x).2 := by
    rw [goes]
    exact (Names.get?_put ..).trans (if_pos rfl)
  refine ⟨told, fun closed => ?_, fun more => ?_⟩
  · have closed : (w.pollWatch x).1 = .closed := Answer.news.inj (hears.symm.trans closed)
    rw [closed] at left
    refine ⟨both, ⟨_, kept, ?_⟩, left⟩
    exact (spent_of_closed reached there closed).turn (ready_of_reached reached) (.command inRuntime (.changed watch))
  · refine ⟨both, _, kept, ?_⟩
    rw [left]
    cases news : (w.pollWatch x).1 with
    | closed => exact absurd (hears.trans (congrArg Answer.news news)) more
    | changed | pending => rfl

theorem Ended.polled (ended : Ended watch stream w u) (ready : w.Ready) (inRuntime : Bool) :
    u.answer (.command inRuntime (.next stream)) = .noHandle ∧
      w.answer (.command inRuntime (.changed watch)) = .news .closed ∧
      Ended watch stream (w.turn (.command inRuntime (.changed watch)))
        (u.turn (.command inRuntime (.next stream))) := by
  obtain ⟨handed, ⟨x, there, spent⟩, gone⟩ := ended
  have stays := step_next_none gone inRuntime
  have goes := step_changed there inRuntime
  have closed : (w.pollWatch x).1 = .closed := by
    rw [pollWatch, spent.unowned]
    exact spent.closed
  have spent := (spent.polled (w.isOwned x.receiver.entry)).turn ready (.command inRuntime (.changed watch))
  refine ⟨congrArg Prod.fst stays, ?_, ?_, ⟨(w.pollWatch x).2, ?_, spent⟩, ?_⟩
  · exact (congrArg Prod.fst goes).trans (congrArg Answer.news closed)
  · simp only [turn]
    rw [stays, goes]
    obtain ⟨others, other⟩ := handed
    refine .intro (fun n different => ?_) other
    exact (others n different).trans ((Names.get?_put ..).trans (if_neg different)).symm
  · simp only [turn]
    rw [goes]
    exact (Names.get?_put ..).trans (if_pos rfl)
  · simp only [turn]
    rw [stays]
    exact gone

/-- A turn in which the watch is polled, or neither it nor the stream is used. -/
inductive Listens (watch stream : String) : Turn → Prop where
  | spares {turn : Turn} (spares : turn.Spares watch stream) : Listens watch stream turn
  | polls (inRuntime : Bool) : Listens watch stream (.command inRuntime (.changed watch))

theorem streamed_polls (watch stream : String) (inRuntime : Bool) :
    Turn.streamed watch stream (.command inRuntime (.changed watch)) = .command inRuntime (.next stream) := by
  rw [Turn.streamed, if_pos rfl]

theorem Ended.turns (ended : Ended watch stream w u) (ready : w.Ready) {later : List Turn}
    (listens : ∀ turn ∈ later, Listens watch stream turn) :
    Ended watch stream (w.turns later) (u.turns (later.map (Turn.streamed watch stream))) := by
  induction later generalizing w u with
  | nil => exact ended
  | cons turn later ih =>
    obtain ⟨first, rest⟩ := List.forall_mem_cons.mp listens
    refine ih ?_ (ready.turn turn) rest
    cases first with
    | spares spares =>
      rw [spares.streamed]
      exact ended.spared ready spares
    | polls inRuntime =>
      rw [streamed_polls]
      exact (ended.polled ready inRuntime).2.2

theorem foundClosed_of_spares {turn : Turn} {later : List Turn} (spares : turn.Spares watch stream)
    (closed : FoundClosed watch w (turn :: later)) : FoundClosed watch (w.turn turn) later := by
  cases closed with
  | here => exact absurd rfl spares.1
  | later closed => exact closed

theorem Going.turns (going : Going watch stream w u) (reached : system.Reached w) {later : List Turn}
    (listens : ∀ turn ∈ later, Listens watch stream turn) :
    (FoundClosed watch w later →
      Ended watch stream (w.turns later) (u.turns (later.map (Turn.streamed watch stream)))) ∧
    (¬ FoundClosed watch w later →
      Going watch stream (w.turns later) (u.turns (later.map (Turn.streamed watch stream)))) := by
  induction later generalizing w u with
  | nil => exact ⟨fun none => (nomatch none), fun _ => going⟩
  | cons turn later ih =>
    obtain ⟨first, rest⟩ := List.forall_mem_cons.mp listens
    have after : system.Reached (w.turn turn) := reached.goes ⟨turn, rfl⟩
    cases first with
    | spares spares =>
      obtain ⟨ends, goes⟩ := ih (going.spared spares) after rest
      rw [List.map_cons, spares.streamed]
      refine ⟨fun closed => ends (foundClosed_of_spares spares closed), fun still => goes fun closed => ?_⟩
      exact still (.later closed)
    | polls inRuntime =>
      obtain ⟨-, ends, goes⟩ := going.polled reached inRuntime
      rw [List.map_cons, streamed_polls]
      by_cases closed : w.answer (.command inRuntime (.changed watch)) = .news .closed
      · exact ⟨fun _ => (ends closed).turns (ready_of_reached after) rest, fun still => absurd (.here closed) still⟩
      · obtain ⟨ends, goes⟩ := ih (goes closed) after rest
        refine ⟨fun found => ends ?_, fun still => goes fun closed => still (.later closed)⟩
        cases found with
        | here now => exact absurd now closed
        | later closed => exact closed

theorem going_intoStream {x : Watch} (there : w.watches.get? watch = some x) :
    Going watch stream w (w.turn (.command inRuntime (.intoStream watch stream))) := by
  have goes : w.turn (.command inRuntime (.intoStream watch stream)) =
      w.holding (w.watches.erase watch) (w.streams.put stream x) := by
    simp only [turn, step, there, withHandle]
    rfl
  rw [goes]
  refine ⟨.intro (fun n different => ?_) (fun n different => ?_), x, there, ?_⟩
  · exact (Names.get?_erase ..).trans (if_neg different)
  · exact (Names.get?_put ..).trans (if_neg different)
  · exact (Names.get?_put ..).trans (if_pos rfl)

/-- What is heard in the next turn, once a stream has taken over a watch and some turns have passed, and what would be
had the watch been kept. -/
structure Echoes (watch stream : String) (closed : Prop) (w u : World) : Prop where
  others : ∀ turn : Turn, turn.Spares watch stream → u.answer turn = w.answer turn
  /-- The stream is told what the watch would be, and whether it is closed. -/
  news : ¬ closed → ∀ inRuntime,
    u.answer (.command inRuntime (.next stream)) = w.answer (.command inRuntime (.changed watch))
  /-- When the watch would have been found closed, the stream has ended, and the watch would be found closed again. -/
  ended : closed → ∀ inRuntime, u.answer (.command inRuntime (.next stream)) = .noHandle ∧
    w.answer (.command inRuntime (.changed watch)) = .news .closed
  /-- The same world is left, but for what is in hands. -/
  world : ∃ watches streams, u = w.holding watches streams

theorem Going.echoes (going : Going watch stream w u) (reached : system.Reached w) {later : List Turn}
    (listens : ∀ turn ∈ later, Listens watch stream turn) :
    Echoes watch stream (FoundClosed watch w later) (w.turns later)
      (u.turns (later.map (Turn.streamed watch stream))) := by
  obtain ⟨ends, goes⟩ := going.turns reached listens
  have after : system.Reached (w.turns later) := reached_turns reached later
  have handed : HandedOver watch stream (w.turns later) (u.turns (later.map (Turn.streamed watch stream))) := by
    by_cases closed : FoundClosed watch w later
    · exact (ends closed).handed
    · exact (goes closed).handed
  refine ⟨fun turn spares => (handed.spared spares).answer, fun still inRuntime => ?_, ?_, handed.world⟩
  · exact ((goes still).polled after inRuntime).1
  · intro closed inRuntime
    obtain ⟨gone, again, -⟩ := (ends closed).polled (ready_of_reached after) inRuntime
    exact ⟨gone, again⟩

end World

/-- Lookouts can be dropped while they wait, and a watch can be handed over to a stream, without a list being lost or
told again, whatever the accesses of a lookout find between those of others.

Dropping lookouts makes no difference: a watch hears in its polls what it does if each has a lookout of its own, which
is what a watch is told of a slot that nobody else uses meanwhile. A stream that is made of it at any time hears what
is left of that, up to the end of reports. In a world, all is as if the watch had been kept and polled instead: the
same is heard in all turns, until the watch would be found closed and the stream ends. -/
theorem lookouts_can_be_dropped :
    (∀ (x : Watch) (events : List Listener.Event), .handOver ∉ events →
      (Listener.watch (.idle x)).hear events = x.hear (Listener.polls events)) ∧
    (∀ (x : Watch) (v : View) (n : Nat),
      x.look (List.replicate (n + 3) v) = some (x.poll v.registry v.isOwned)) ∧
    (∀ (x : Watch) (before after : List Listener.Event) (news : List Watch.News), .handOver ∉ before →
      x.hear (Listener.polls (before ++ after)) = some news →
        (Listener.watch (.idle x)).hear (before ++ .handOver :: after) =
          some (news.take (Listener.polls before).length ++
            Watch.untilClosed (news.drop (Listener.polls before).length))) ∧
    ∀ (network : Http.Network) (caches : Nat) (feeds : List Feed) (past : List Turn) (watch stream : String)
      (inRuntime : Bool) (later : List Turn),
      let w := (World.start network caches feeds).turns past
      (w.watches.get? watch).isSome → (∀ turn ∈ later, World.Listens watch stream turn) →
        World.Echoes watch stream (World.FoundClosed watch w later) (w.turns later)
          ((w.turn (.command inRuntime (.intoStream watch stream))).turns
            (later.map (Turn.streamed watch stream))) := by
  refine ⟨fun x events => Listener.hear_watch (Listener.Stage.rests_idle x), Watch.look_replicate, ?_, ?_⟩
  · intro x before after news kept told
    exact Listener.hear_handOver (Listener.Stage.rests_idle x) kept told
  · intro network caches feeds past watch stream inRuntime later w known listens
    have reached : World.system.Reached w := World.reached_turns (World.reached_start network caches feeds) past
    obtain ⟨x, there⟩ := Option.isSome_iff_exists.mp known
    exact (World.going_intoStream there).echoes reached listens

namespace FetchedOnce

/-- A watch is made of a slot about which nothing is known yet. -/
def begun : World :=
  (World.start (.answering []) 1 [.onLocalhost .default]).turn (.command false (.subscribe 0 "watch"))

def past : List Turn :=
  [.command false (.subscribe 0 "watch"), .command true (.claim 0 "claim"), .command true (.settle "claim" (.ready []))]

def settled : World := (World.start (.answering []) 1 [.onLocalhost .default]).turns past

def early : View := ⟨begun.registry, true⟩

def late : View := ⟨settled.registry, true⟩

/-- The key is gone that led to the slot. -/
def unowned : View := ⟨settled.registry, false⟩

/-- A watch that waits, hears of a list and is closed hears the same if its lookout is dropped, and if it is handed
over to a stream while it waits. In a world, the stream is told of the list and then ends. -/
theorem dropped_and_handed_over :
    (Listener.watch (.idle ⟨⟨0, 0⟩, .pending⟩)).hear [.poll [early], .drop, .poll [late, late], .poll [unowned]] =
      some [.pending, .changed [], .closed] ∧
    (Listener.watch (.idle ⟨⟨0, 0⟩, .pending⟩)).hear [.poll [early], .handOver, .poll [late, late], .poll [unowned]] =
      some [.pending, .changed [], .closed] ∧
    let stream := settled.turn (.command true (.intoStream "watch" "stream"))
    stream.answer (.command true (.next "stream")) = .news (.changed []) ∧
      (stream.turns [.command true (.next "stream"), .command true (.cacheClear 0),
        .command true (.next "stream")]).answer (.command true (.next "stream")) = .noHandle := by
  obtain ⟨dropped, -, handed, inWorld⟩ := lookouts_can_be_dropped
  have echoes := inWorld (.answering []) 1 [.onLocalhost .default] past "watch" "stream" true
  have heard : Watch.hear ⟨⟨0, 0⟩, .pending⟩ [[early], [late, late], [unowned]] =
      some [.pending, .changed [], .closed] := rfl
  have cleared : World.Listens "watch" "stream" (.command true (.cacheClear 0)) := .spares ⟨by decide, by decide⟩
  have listens : ∀ turn ∈ [Turn.command true (.changed "watch"), .command true (.cacheClear 0),
      .command true (.changed "watch")], World.Listens "watch" "stream" turn :=
    List.forall_mem_cons.mpr
      ⟨.polls true, List.forall_mem_cons.mpr ⟨cleared, List.forall_mem_singleton.mpr (.polls true)⟩⟩
  refine ⟨?_, ?_, ?_, ?_⟩
  · exact (dropped _ _ (by simp)).trans heard
  · exact handed _ [.poll [early]] [.poll [late, late], .poll [unowned]] _ (by simp) heard
  · exact ((echoes [] rfl nofun).news nofun true).trans rfl
  · exact ((echoes [.command true (.changed "watch"), .command true (.cacheClear 0), .command true (.changed "watch")]
      rfl listens).ended (.later (.later (.here rfl))) true).1

end FetchedOnce

end ChannelFeed
