import ChannelFeed.Feed.Watch

/-!
# Lookouts

To wait for the next report of a watch is to keep a lookout. It goes on by single accesses to the slot, between which
others may use the slot too, and can be dropped or handed to someone else while it waits. Wherever it waits it has seen
a version and has nothing in hands that its watch has not: one that is kept and one that is made anew go on alike.
-/
namespace ChannelFeed

open Cache

/-- What an access finds: the slots, and whether the slot of the watch has an owner. -/
structure View where
  registry : Registry (List Channel)
  isOwned : Bool

/-- What a lookout does next. -/
inductive Lookout.Phase where
  /-- Asks for a version that the watch has not seen. -/
  | asking
  /-- Sleeps until there is another version, or nobody who could publish one. -/
  | asleep (version : Nat)
  | reading

/-- A lookout has its watch in hands until it ends. -/
structure Lookout where
  watch : Watch
  phase : Lookout.Phase

namespace Lookout

/-- What one access comes to. There is no report if the watch is closed. -/
inductive Progress where
  | going (next : Lookout)
  | blocked (next : Lookout)
  | ended (report : Option (List Channel)) (watch : Watch)

def start (x : Watch) : Lookout := ⟨x, .asking⟩

def ask (x : Watch) (v : View) : Progress :=
  match x.receiver.poll v.registry v.isOwned with
  | (.changed, receiver) => .going ⟨{ x with receiver }, .reading⟩
  | (.pending, receiver) => .blocked ⟨{ x with receiver }, .asleep receiver.seen⟩
  | (.closed, receiver) => .ended none { x with receiver }

def read (x : Watch) (v : View) : Progress :=
  let receiver := x.receiver.caughtUp v.registry
  if (x.state v.registry).same x.last then .going ⟨{ x with receiver }, .asking⟩
  else .ended (some (x.state v.registry).shown) ⟨receiver, x.state v.registry⟩

/-- One access of a lookout to the slot. -/
def access (l : Lookout) (v : View) : Progress :=
  match l.phase with
  | .asking => ask l.watch v
  | .asleep version =>
    if (v.registry.cell l.watch.receiver.entry).version = version ∧ v.isOwned = true then .blocked l else ask l.watch v
  | .reading => read l.watch v

/-- Lets a lookout go on until it has to wait or ends. Each access has a view of its own; the poll is not over if there
are not enough of them. -/
def poll (l : Lookout) : List View → Option (Polled Lookout (Option (List Channel) × Watch))
  | [] => none
  | v :: views =>
    match l.access v with
    | .going next => next.poll views
    | .blocked next => some (.pending next)
    | .ended report x => some (.done (report, x))

/-- A lookout that has to wait sleeps, and the version it knows of is the one that its watch has seen. -/
def Rests (l : Lookout) : Prop := l.phase = .asleep l.watch.receiver.seen

/-- A lookout that sleeps rests, if it does. -/
def Orderly (l : Lookout) : Prop := ∀ version, l.phase = .asleep version → l.Rests

variable {l next : Lookout} {v : View} {x : Watch}

theorem orderly_start (x : Watch) : (start x).Orderly := by
  intro version asleep
  cases asleep

theorem Rests.orderly (rests : l.Rests) : l.Orderly := fun _ _ => rests

theorem rests_of_ask (blocked : ask x v = .blocked next) : next.Rests := by
  unfold ask at blocked
  split at blocked <;> cases blocked
  rfl

/-- One access leads from the version that is seen to the state that is read, and not to a place where others could come
between the two. -/
theorem Orderly.access (orderly : l.Orderly) :
    (∀ next, l.access v = .blocked next → next.Rests) ∧ ∀ next, l.access v = .going next → next.Orderly := by
  have asks : (∀ next, ask l.watch v = .blocked next → next.Rests) ∧
      ∀ next, ask l.watch v = .going next → next.Orderly := by
    refine ⟨fun next => rests_of_ask, fun next going => ?_⟩
    unfold ask at going
    split at going <;> cases going
    intro version asleep
    cases asleep
  unfold Lookout.access
  cases phase : l.phase with
  | asking => exact asks
  | asleep version =>
    dsimp only
    split
    · refine ⟨fun next blocked => ?_, fun next going => by cases going⟩
      cases blocked
      exact orderly version phase
    · exact asks
  | reading =>
    refine ⟨fun next blocked => ?_, fun next going => ?_⟩
    · simp only [read] at blocked
      split at blocked <;> cases blocked
    · simp only [read] at going
      split at going <;> cases going
      intro version asleep
      cases asleep

theorem Orderly.poll (orderly : l.Orderly) {views : List View} (waits : l.poll views = some (.pending next)) :
    next.Rests := by
  induction views generalizing l with
  | nil => cases waits
  | cons v views ih =>
    obtain ⟨blocked, going⟩ := orderly.access (v := v)
    rw [Lookout.poll] at waits
    cases came : l.access v with
    | going later =>
      rw [came] at waits
      exact ih (going later came) waits
    | blocked later =>
      rw [came] at waits
      cases waits
      exact blocked next came
    | ended report x =>
      rw [came] at waits
      cases waits

/-- To be woken is to find what a lookout would that is made anew. -/
theorem Rests.access (rests : l.Rests) (v : View) : l.access v = (start l.watch).access v := by
  obtain ⟨⟨receiver, last⟩, phase⟩ := l
  obtain rfl : phase = .asleep receiver.seen := rests
  simp only [Lookout.access, start]
  split
  · next sleeps =>
    obtain ⟨seen, owned⟩ := sleeps
    simp [ask, Receiver.poll, Receiver.isBehind, seen, owned]
  · rfl

theorem Rests.poll (rests : l.Rests) (views : List View) : l.poll views = (start l.watch).poll views := by
  cases views with
  | nil => rfl
  | cons v views => rw [Lookout.poll, Lookout.poll, rests.access v]

end Lookout

/-- What a watch is told by a report, or by the end of reports. -/
def Watch.News.ofReport : Option (List Channel) → Watch.News
  | some channels => .changed channels
  | none => .closed

/-- A lookout is made, polled once and dropped. -/
def Watch.look (x : Watch) (views : List View) : Option (Watch.News × Watch) :=
  match (Lookout.start x).poll views with
  | none => none
  | some (.pending l) => some (.pending, l.watch)
  | some (.done (report, y)) => some (.ofReport report, y)

/-- If nobody else uses the slot meanwhile, three accesses are enough, and come to a poll of the watch. -/
theorem Watch.look_replicate (x : Watch) (v : View) (n : Nat) :
    x.look (List.replicate (n + 3) v) = some (x.poll v.registry v.isOwned) := by
  obtain ⟨receiver, last⟩ := x
  have seen : (receiver.caughtUp v.registry).isBehind v.registry = false := by
    simp [Receiver.isBehind, Receiver.caughtUp]
  have again : (receiver.caughtUp v.registry).caughtUp v.registry = receiver.caughtUp v.registry := rfl
  have entry : (Watch.mk (receiver.caughtUp v.registry) last).state v.registry =
      (Watch.mk receiver last).state v.registry := rfl
  cases behind : receiver.isBehind v.registry with
  | false =>
    cases owned : v.isOwned <;>
      simp [look, Lookout.poll, Lookout.access, Lookout.ask, Lookout.start, Watch.poll, Receiver.poll,
        List.replicate_succ, behind, owned, News.ofReport]
  | true =>
    cases same : ((Watch.mk receiver last).state v.registry).same last with
    | false =>
      simp [look, Lookout.poll, Lookout.access, Lookout.ask, Lookout.read, Lookout.start, Watch.poll, Receiver.poll,
        List.replicate_succ, behind, again, entry, same, News.ofReport]
    | true =>
      cases owned : v.isOwned <;>
        simp [look, Lookout.poll, Lookout.access, Lookout.ask, Lookout.read, Lookout.start, Watch.poll, Receiver.poll,
          List.replicate_succ, behind, seen, again, entry, same, owned, News.ofReport]

/-- A watch, and the lookout that has it in hands, if one waits. -/
inductive Listener.Stage where
  | idle (x : Watch)
  | waiting (l : Lookout)

/-- Someone who listens by means of a watch, or of the stream that was made of it. -/
inductive Listener where
  | watch (stage : Listener.Stage)
  | stream (stage : Listener.Stage)
  | ended

/-- What a listener does. -/
inductive Listener.Event where
  /-- Polls the lookout that waits, or a new one. -/
  | poll (views : List View)
  | drop
  | handOver

namespace Listener

namespace Stage

/-- The watch that is left when the lookout is dropped. -/
def watch : Stage → Watch
  | idle x => x
  | waiting l => l.watch

/-- The lookout that is polled next. -/
def lookout : Stage → Lookout
  | idle x => .start x
  | waiting l => l

/-- A lookout that waits is where one has to wait. -/
def Rests (stage : Stage) : Prop := ∀ l, stage = waiting l → l.Rests

def next : Polled Lookout (Option (List Channel) × Watch) → Stage
  | .pending l => waiting l
  | .done (_, x) => idle x

def news : Polled Lookout (Option (List Channel) × Watch) → Watch.News
  | .pending _ => .pending
  | .done (report, _) => .ofReport report

variable {stage : Stage} {views : List View} {polled : Polled Lookout (Option (List Channel) × Watch)}

theorem rests_idle (x : Watch) : (idle x).Rests := by
  intro l same
  cases same

theorem Rests.orderly (rests : stage.Rests) : stage.lookout.Orderly := by
  cases stage with
  | idle x => exact Lookout.orderly_start x
  | waiting l => exact (rests l rfl).orderly

theorem Rests.next (rests : stage.Rests) (came : stage.lookout.poll views = some polled) : (next polled).Rests := by
  cases polled with
  | pending l =>
    intro k same
    cases same
    exact rests.orderly.poll came
  | done result => exact rests_idle result.2

theorem Rests.poll (rests : stage.Rests) (views : List View) :
    stage.lookout.poll views = (Lookout.start stage.watch).poll views := by
  cases stage with
  | idle x => rfl
  | waiting l => exact (rests l rfl).poll views

/-- Whether its lookout was kept or dropped, a stage hears and leaves what a new look does. -/
theorem Rests.look (rests : stage.Rests) (views : List View) :
    stage.watch.look views = (stage.lookout.poll views).map fun polled => (news polled, (Stage.next polled).watch) := by
  rw [rests.poll, Watch.look]
  split
  · next none => rw [none]; rfl
  · next l pending => rw [pending]; rfl
  · next report y ended => rw [ended]; rfl

end Stage

/-- A poll, which comes to what is heard and to the listener that is left. A stream ends when its watch is closed. -/
def poll : Listener → List View → Option (Watch.News × Listener)
  | watch stage, views => (stage.lookout.poll views).map fun polled => (Stage.news polled, watch (Stage.next polled))
  | stream stage, views =>
    (stage.lookout.poll views).map fun polled =>
      match polled with
      | .done (none, _) => (.closed, ended)
      | _ => (Stage.news polled, stream (Stage.next polled))
  | ended, _ => none

def drop : Listener → Listener
  | watch stage => watch (.idle stage.watch)
  | listener => listener

def handOver : Listener → Listener
  | watch stage => stream (.idle stage.watch)
  | listener => listener

/-- What is heard, poll by poll, if all polls are over. A stream that has ended is not polled again. -/
def hear : Listener → List Event → Option (List Watch.News)
  | _, [] => some []
  | listener, .drop :: events => listener.drop.hear events
  | listener, .handOver :: events => listener.handOver.hear events
  | ended, .poll _ :: events => ended.hear events
  | listener, .poll views :: events =>
    match listener.poll views with
    | some (news, next) => (next.hear events).map (news :: ·)
    | none => none

end Listener

/-- The views of the polls among events. -/
def Listener.polls (events : List Listener.Event) : List (List View) :=
  events.filterMap fun
    | .poll views => some views
    | _ => none

/-- What is heard of a watch by one look after the other. -/
def Watch.hear : Watch → List (List View) → Option (List Watch.News)
  | _, [] => some []
  | x, views :: polls =>
    match x.look views with
    | some (news, y) => (y.hear polls).map (news :: ·)
    | none => none

def Watch.untilClosed : List Watch.News → List Watch.News
  | [] => []
  | .closed :: _ => [.closed]
  | news :: rest => news :: untilClosed rest

namespace Listener

variable {stage : Stage} {events before after : List Event}

theorem polls_cons_poll (views : List View) (events : List Event) :
    polls (.poll views :: events) = views :: polls events := rfl

theorem hear_watch (rests : stage.Rests) (kept : Event.handOver ∉ events) :
    (watch stage).hear events = stage.watch.hear (polls events) := by
  induction events generalizing stage with
  | nil => rfl
  | cons event events ih =>
    have still := List.not_mem_of_not_mem_cons kept
    cases event with
    | drop => exact ih (Stage.rests_idle stage.watch) still
    | handOver => exact absurd List.mem_cons_self kept
    | poll views =>
      rw [polls_cons_poll, Watch.hear, rests.look]
      simp only [hear, poll]
      cases came : stage.lookout.poll views with
      | none => rfl
      | some polled =>
        simp only [Option.map_some]
        rw [ih (rests.next came) still]

theorem hear_ended (events : List Event) : ended.hear events = some [] := by
  induction events with
  | nil => rfl
  | cons event events ih => cases event <;> exact ih

theorem hear_stream (rests : stage.Rests) {news : List Watch.News}
    (told : stage.watch.hear (polls events) = some news) :
    (stream stage).hear events = some (Watch.untilClosed news) := by
  induction events generalizing stage news with
  | nil =>
    cases told
    rfl
  | cons event events ih =>
    cases event with
    | drop | handOver => exact ih rests told
    | poll views =>
      rw [polls_cons_poll, Watch.hear, rests.look] at told
      simp only [hear, poll]
      cases came : stage.lookout.poll views with
      | none =>
        rw [came] at told
        cases told
      | some polled =>
        simp only [came, Option.map_some, Option.map_eq_some_iff] at told
        obtain ⟨rest, heard, rfl⟩ := told
        have goes := ih (rests.next came) heard
        cases polled with
        | pending l => simp only [Option.map_some, goes, Stage.news, Watch.untilClosed]
        | done result =>
          obtain ⟨report, x⟩ := result
          cases report with
          | none => simp only [Option.map_some, hear_ended, Stage.news, Watch.News.ofReport, Watch.untilClosed]
          | some channels => simp only [Option.map_some, goes, Stage.news, Watch.News.ofReport, Watch.untilClosed]

theorem hear_handOver (rests : stage.Rests) (kept : Event.handOver ∉ before) {news : List Watch.News}
    (told : stage.watch.hear (polls (before ++ after)) = some news) :
    (watch stage).hear (before ++ .handOver :: after) =
      some (news.take (polls before).length ++ Watch.untilClosed (news.drop (polls before).length)) := by
  induction before generalizing stage news with
  | nil => exact hear_stream (Stage.rests_idle stage.watch) told
  | cons event before ih =>
    have still := List.not_mem_of_not_mem_cons kept
    cases event with
    | drop => exact ih (Stage.rests_idle stage.watch) still told
    | handOver => exact absurd List.mem_cons_self kept
    | poll views =>
      rw [List.cons_append, polls_cons_poll, Watch.hear, rests.look] at told
      simp only [List.cons_append, hear, poll]
      cases came : stage.lookout.poll views with
      | none =>
        rw [came] at told
        cases told
      | some polled =>
        simp only [came, Option.map_some, Option.map_eq_some_iff] at told
        obtain ⟨rest, heard, rfl⟩ := told
        have goes := ih (rests.next came) still heard
        simp only [Option.map_some, goes]
        rfl

end Listener

end ChannelFeed
