import ChannelFeed.Proofs.Feed.Turns
import Mathlib.Data.List.InsertIdx

/-!
# Concealing failures

To conceal failures is to forget the policies of feeds. A world in which all feeds conceal failures goes on as the world
does from which it was made, and answers as it does but for the failures.
-/
namespace ChannelFeed

open Cache

def Feed.under (feed : Feed) (policy : FailurePolicy) : Feed := { feed with options := { feed.options with policy } }

/-- The call of the feed under another policy. -/
def Call.under (c : Call) (policy : FailurePolicy) : Call := { c with feed := c.feed.under policy }

def Call.Progress.under (policy : FailurePolicy) : Call.Progress → Call.Progress
  | .going next => .going (next.under policy)
  | .blocked next => .blocked (next.under policy)
  | .settled state => .settled state

def Cache.Polled.under (policy : FailurePolicy) : Polled Call ChannelState → Polled Call ChannelState
  | .pending rest => .pending (rest.under policy)
  | .done state => .done state

theorem Call.access_under (inRuntime : Bool) (c : Call) (r : Registry (List Channel)) (policy : FailurePolicy) :
    (c.under policy).access inRuntime r = (c.access inRuntime r).map (·.under policy) id := by
  obtain ⟨feed, entry, since, phase⟩ := c
  cases phase with
  | starting =>
    simp only [access, under]
    cases claim? inRuntime r entry <;> rfl
  | waiting wait =>
    simp only [access, under]
    cases wait.poll r with
    | pending rest => rfl
    | done slot => by_cases enough : since ≤ slot.settledGeneration <;> simp only [enough, if_true, if_false] <;> rfl
  | retrying found =>
    simp only [access, under]
    cases claim? inRuntime r entry <;> rfl
  | checking found =>
    simp only [access, under]
    by_cases busy : (r.slot entry).isFetching = true <;> simp only [busy, if_true] <;> rfl

/-- What a caller is told if failures are concealed, who is told this otherwise. -/
def concealedResult : Except Failure (List Channel) → Except Failure (List Channel)
  | .ok channels => .ok channels
  | .error _ => .ok []

theorem concealedResult_resolve (policy : FailurePolicy) (state : ChannelState) :
    concealedResult (policy.resolve state) = FailurePolicy.conceal.resolve state := by
  cases state with
  | failed text => cases policy <;> rfl
  | _ => rfl

def Cache.Polled.concealed :
    Polled Call (Except Failure (List Channel)) → Polled Call (Except Failure (List Channel))
  | .pending rest => .pending (rest.under .conceal)
  | .done result => .done (concealedResult result)

def Completed.concealed (completed : Completed) : Completed :=
  { completed with result := concealedResult completed.result }

namespace Answer

/-- The answer if failures are concealed. The policy itself is part of the options that a feed tells. -/
def concealed : Answer → Answer
  | .result given => .result (concealedResult given)
  | .options own => .options { own with policy := .conceal }
  | answer => answer

end Answer

namespace World

/-- The world if all feeds conceal failures. -/
def concealing (w : World) : World :=
  { w with
    feeds := w.feeds.map (·.under .conceal)
    calls := w.calls.map fun pair => (pair.1, pair.2.under .conceal) }

theorem concealing_start (network : Http.Network) (caches : Nat) (feeds : List Feed) :
    (start network caches feeds).concealing = start network caches (feeds.map (·.under .conceal)) := rfl

theorem concealing_launch (w : World) (feed : Feed) (claim : Option Claim) :
    launch w.concealing (feed.under .conceal) claim = (launch w feed claim).concealing := by
  cases claim <;> rfl

theorem concealing_startFetch (w : World) (inRuntime : Bool) (feed : Feed) (entry : EntryId) :
    w.concealing.startFetch inRuntime (feed.under .conceal) entry =
      (w.startFetch inRuntime feed entry).map id concealing := by
  have same : w.concealing.registry = w.registry := rfl
  unfold startFetch
  rw [same]
  cases Call.claim? inRuntime w.registry entry <;> rfl

theorem concealing_runFlight (w : World) (f : Flight) : w.concealing.runFlight f = (w.runFlight f).concealing := by
  have holding : w.concealing.isHolding = w.isHolding := rfl
  have network : w.concealing.network = w.network := rfl
  unfold runFlight
  rw [holding, network]
  dsimp only
  cases (f.advance w.isHolding w.network).1.fetched? <;> rfl

theorem concealing_runFlights (w : World) : w.concealing.runFlights = w.runFlights.concealing := by
  have each : ∀ (flights : List Flight) (w : World),
      flights.foldl runFlight w.concealing = (flights.foldl runFlight w).concealing := by
    intro flights
    induction flights with
    | nil =>
      intro w
      rfl
    | cons f flights ih =>
      intro w
      rw [List.foldl_cons, List.foldl_cons, concealing_runFlight, ih]
  exact each w.flights { w with flights := [] }

theorem concealing_advance (w : World) (inRuntime : Bool) (c : Call) (n : Nat) :
    w.concealing.advance inRuntime (c.under .conceal) n =
      (w.advance inRuntime c n).map (·.under .conceal) concealing := by
  induction n generalizing w c with
  | zero => rfl
  | succ n ih =>
    have launched (claim : Option Claim) (registry : Registry (List Channel)) :
        launch { w.concealing with registry } (c.under .conceal).feed claim =
          (launch { w with registry } c.feed claim).concealing :=
      concealing_launch { w with registry } c.feed claim
    have same : w.concealing.registry = w.registry := rfl
    simp only [advance, Call.access_under, Prod.map_fst, Prod.map_snd, id, same, launched]
    cases (c.access inRuntime w.registry).1 with
    | going next => exact ih _ next
    | blocked next => rfl
    | settled state => rfl

theorem concealing_pollCall (w : World) (inRuntime : Bool) (c : Call) :
    w.concealing.pollCall inRuntime (c.under .conceal) = (w.pollCall inRuntime c).map (·.concealed) concealing := by
  simp only [pollCall, concealing_advance]
  obtain ⟨polled, w'⟩ := w.advance inRuntime c maxAccesses
  cases polled with
  | pending rest => rfl
  | done state =>
    simp only [Prod.map, Polled.under, Polled.concealed, concealedResult_resolve]
    rfl

theorem concealing_begin (w : World) (inRuntime : Bool) (name : String) (c : Call) :
    w.concealing.begin inRuntime name (c.under .conceal) =
      (w.begin inRuntime name c).map (·.concealed) concealing := by
  simp only [begin, concealing_pollCall]
  obtain ⟨polled, w'⟩ := w.pollCall inRuntime c
  cases polled with
  | pending rest => simp [Polled.concealed, Answer.concealed, concealing]
  | done given => rfl

theorem concealing_release (w : World) : w.concealing.release = w.release.map id concealing := by
  have held : w.concealing.oldestHeld? = w.oldestHeld? := rfl
  unfold release
  rw [held]
  cases w.oldestHeld? <;> rfl

theorem concealing_entry (w : World) (feed : Feed) :
    w.concealing.entry (feed.under .conceal) = (w.entry feed).map id concealing := rfl

theorem concealing_channels (w : World) (inRuntime : Bool) (feed : Feed) :
    w.concealing.channels inRuntime (feed.under .conceal) = (w.channels inRuntime feed).map id concealing := by
  simp only [channels, concealing_entry, Prod.map_fst, Prod.map_snd, id, concealing_startFetch]
  rfl

theorem concealing_subscribe (w : World) (inRuntime : Bool) (feed : Feed) (name : String) :
    w.concealing.subscribe inRuntime (feed.under .conceal) name = (w.subscribe inRuntime feed name).concealing := by
  simp only [subscribe, concealing_entry, Prod.map_fst, Prod.map_snd, id, concealing_startFetch]
  rfl

theorem concealing_notify (w : World) (inRuntime : Bool) (feed : Feed) (trigger : Trigger) :
    w.concealing.notify inRuntime (feed.under .conceal) trigger =
      (w.notify inRuntime feed trigger).map id concealing := by
  have heeds : (feed.under .conceal).options.allows trigger = feed.options.allows trigger := by
    cases trigger <;> rfl
  have known : w.concealing.registry.get? (feed.under .conceal).cache channelsKey =
    w.registry.get? feed.cache channelsKey := rfl
  unfold notify
  rw [heeds, known]
  cases feed.options.allows trigger with
  | false => rfl
  | true =>
    cases w.registry.get? feed.cache channelsKey with
    | none => rfl
    | some entry =>
      cases pending : (w.registry.slot entry).state.isPending with
      | true => simp [pending, concealing]
      | false =>
        have same : w.concealing.registry = w.registry := rfl
        simp only [same, pending]
        exact concealing_startFetch { w with registry := (w.registry.markStale entry).2 } inRuntime feed entry

theorem concealing_giveUp (w : World) (name : String) : w.concealing.giveUp name = (w.giveUp name).concealing := by
  have claims : w.concealing.claims = w.claims := rfl
  unfold giveUp
  rw [claims]
  cases w.claims.get? name <;> rfl

theorem concealing_claimEntry (w : World) (entry : EntryId) (name : String) :
    w.concealing.claimEntry entry name = (w.claimEntry entry name).map id concealing := by
  have same : w.concealing.registry = w.registry := rfl
  unfold claimEntry
  rw [same]
  cases w.registry.claim? entry with
  | none => rfl
  | some granted =>
    have gaveUp := concealing_giveUp { w with registry := granted.2 } name
    change _ = (true, _)
    rw [Prod.mk.injEq]
    exact ⟨rfl, congrArg (fun x : World => { x with claims := x.claims.put name granted.1 }) gaveUp⟩

theorem concealing_claim (w : World) (cache : Nat) (name : String) :
    w.concealing.claim cache name = (w.claim cache name).map id concealing :=
  concealing_claimEntry { w with registry := (w.registry.entry cache channelsKey).2 } _ name

theorem concealing_pollWait (w : World) (name : String) (wait : Wait) (others : Names Wait) :
    w.concealing.pollWait name wait others = (w.pollWait name wait others).map (·.concealed) concealing := by
  have same : w.concealing.registry = w.registry := rfl
  unfold pollWait
  rw [same]
  cases wait.poll w.registry <;> rfl

theorem concealing_pollWatch (w : World) (x : Watch) : w.concealing.pollWatch x = w.pollWatch x := by
  have owned : w.concealing.isOwned x.receiver.entry = w.isOwned x.receiver.entry := by
    simp only [isOwned, concealing, List.any_map]
    rfl
  simp only [pollWatch, owned]
  rfl

/-- A command about a thing that a number or name leads to, be it changed by the policies or not. -/
theorem concealing_withHandle {α β : Type} (w : World) (g : α → β) (handle : Option α) {f : α → Answer × World}
    {f' : β → Answer × World} (each : ∀ x, f' (g x) = (f x).map (·.concealed) concealing) :
    w.concealing.withHandle (handle.map g) f' = (w.withHandle handle f).map (·.concealed) concealing := by
  cases handle with
  | none => rfl
  | some x => exact each x

theorem concealing_withHandle_same {α : Type} (w : World) (handle : Option α) {f f' : α → Answer × World}
    (each : ∀ x, f' x = (f x).map (·.concealed) concealing) :
    w.concealing.withHandle handle f' = (w.withHandle handle f).map (·.concealed) concealing := by
  have mapped := concealing_withHandle w id handle each
  rw [Option.map_id] at mapped
  exact mapped

theorem concealing_step (w : World) (inRuntime : Bool) (command : Command) :
    w.concealing.step inRuntime command = (w.step inRuntime command).map (·.concealed) concealing := by
  have feeds (number : Nat) : w.concealing.feeds[number]? = (w.feeds[number]?).map (·.under .conceal) :=
    List.getElem?_map ..
  cases command with
  | release =>
    simp only [step, concealing_release]
    rfl
  | channels number =>
    simp only [step, feeds]
    refine concealing_withHandle w _ _ fun feed => ?_
    rw [concealing_channels]
    rfl
  | load number name =>
    simp only [step, feeds]
    exact concealing_withHandle w _ _ fun feed => concealing_begin (w.entry feed).2 inRuntime name (.load feed _)
  | refetch number name =>
    simp only [step, feeds]
    refine concealing_withHandle w _ _ fun feed => ?_
    exact concealing_begin
      { w with registry := ((w.entry feed).2.registry.markStale (w.entry feed).1).2 } inRuntime name
        (.refetch feed (w.entry feed).1 ((w.entry feed).2.registry.markStale (w.entry feed).1).1)
  | cancel name =>
    have found : w.concealing.calls.lookup name = (w.calls.lookup name).map (·.under .conceal) :=
      Names.get?_map (fun c : Call => c.under .conceal) w.calls name
    simp only [step, found]
    refine concealing_withHandle w _ _ fun c => ?_
    simp only [concealing, List.eraseP_map]
    rfl
  | state number | invalidate number | options number =>
    simp only [step, feeds]
    exact concealing_withHandle w _ _ fun feed => rfl
  | notify number trigger =>
    simp only [step, feeds]
    refine concealing_withHandle w _ _ fun feed => ?_
    rw [concealing_notify]
    rfl
  | subscribe number name =>
    simp only [step, feeds]
    refine concealing_withHandle w _ _ fun feed => ?_
    rw [concealing_subscribe]
    rfl
  | current name | watchState name | intoStream name other | settle name state | look name | mark name
  | dropWait name | letGo name =>
    exact concealing_withHandle_same w _ fun _ => rfl
  | changed name =>
    refine concealing_withHandle_same w _ fun x => ?_
    rw [concealing_pollWatch]
    rfl
  | next stream =>
    refine concealing_withHandle_same w _ fun x => ?_
    rw [concealing_pollWatch]
    obtain ⟨news, x'⟩ := w.pollWatch x
    cases news <;> rfl
  | claim cache name =>
    simp only [step, concealing_claim]
    rfl
  | dropClaim name =>
    refine concealing_withHandle_same w _ fun x => ?_
    rw [concealing_giveUp]
    rfl
  | claimKept kept name =>
    refine concealing_withHandle_same w _ fun entry => ?_
    rw [concealing_claimEntry]
    rfl
  | wait kept name => exact concealing_withHandle_same w _ fun entry => concealing_pollWait w name _ _
  | pollWait name => exact concealing_withHandle_same w _ fun wait => concealing_pollWait w name _ _
  | _ => rfl

theorem concealing_turn (w : World) (turn : Turn) : w.concealing.turn turn = (w.turn turn).concealing := by
  cases turn with
  | command inRuntime command => exact congrArg Prod.snd (concealing_step w inRuntime command)
  | poll inRuntime place =>
    have there : w.concealing.calls[place]? = (w.calls[place]?).map fun pair => (pair.1, pair.2.under .conceal) :=
      List.getElem?_map ..
    have others : { w.concealing with calls := w.concealing.calls.eraseIdx place } =
        concealing { w with calls := w.calls.eraseIdx place } := by
      simp only [concealing, List.eraseIdx_map]
    simp only [turn, there, others]
    cases w.calls[place]? with
    | none => rfl
    | some pair =>
      simp only [Option.map_some, concealing_pollCall]
      obtain ⟨polled, w'⟩ := pollCall { w with calls := w.calls.eraseIdx place } inRuntime pair.2
      cases polled with
      | pending rest => simp [Polled.concealed, concealing]
      | done given => rfl
  | fly place =>
    have same : w.concealing.flights = w.flights := rfl
    simp only [turn, same]
    cases w.flights[place]? with
    | none => rfl
    | some f => exact concealing_runFlight { w with flights := w.flights.eraseIdx place } f

theorem concealing_turns (w : World) (turns : List Turn) : w.concealing.turns turns = (w.turns turns).concealing := by
  induction turns generalizing w with
  | nil => rfl
  | cons turn rest ih => rw [World.turns, World.turns, concealing_turn, ih]

def Moves.concealed (moves : Moves) : Moves := { moves with completed := moves.completed.map Completed.concealed }

theorem concealing_fly (w : World) : w.concealing.fly = w.fly.map id concealing := by
  rw [fly, concealing_runFlights]
  rfl

theorem concealing_pollCalls (calls : List (String × Call)) (w : World) :
    w.concealing.pollCalls (calls.map fun pair => (pair.1, pair.2.under .conceal)) =
      (w.pollCalls calls).map Moves.concealed concealing := by
  induction calls generalizing w with
  | nil => rfl
  | cons first calls ih =>
    obtain ⟨name, call⟩ := first
    simp only [List.map_cons, pollCalls, concealing_pollCall]
    obtain ⟨polled, w'⟩ := w.pollCall true call
    cases polled with
    | pending rest =>
      have kept : { w'.concealing with calls := w'.concealing.calls ++ [(name, rest.under .conceal)] } =
          concealing { w' with calls := w'.calls ++ [(name, rest)] } := by
        simp [concealing]
      simp only [Prod.map, Polled.concealed, kept, concealing_fly, ih]
      rfl
    | done given =>
      simp only [Prod.map, Polled.concealed, concealing_fly, ih]
      rfl

theorem concealing_round (w : World) : w.concealing.round = w.round.map Moves.concealed concealing := by
  unfold round
  rw [concealing_fly]
  obtain ⟨moved, w'⟩ := w.fly
  have polled : pollCalls { w'.concealing with calls := [] } w'.concealing.calls =
      (pollCalls { w' with calls := [] } w'.calls).map Moves.concealed concealing :=
    concealing_pollCalls w'.calls { w' with calls := [] }
  simp only [Prod.map, polled]
  rfl

theorem concealing_rounds (w : World) (n : Nat) :
    w.concealing.rounds n = (w.rounds n).map (·.map Completed.concealed) concealing := by
  induction n generalizing w with
  | zero => rfl
  | succ n ih =>
    simp only [rounds, concealing_round]
    obtain ⟨moves, w'⟩ := w.round
    by_cases anything : moves.anything = true
    · simp [Prod.map, Moves.concealed, anything, ih]
    · simp [Prod.map, Moves.concealed, anything]

def Report.concealed (report : Report) : Report :=
  { report with answer := report.answer.concealed, completed := report.completed.map Completed.concealed }

theorem concealing_perform (w : World) (inRuntime : Bool) (command : Command) :
    w.concealing.perform inRuntime command = (w.perform inRuntime command).map Report.concealed concealing := by
  simp only [perform, concealing_step, settle]
  obtain ⟨answer, w'⟩ := w.step inRuntime command
  have line : w'.concealing.calls.length = w'.calls.length := List.length_map ..
  simp only [Prod.map, line, concealing_rounds]
  rfl

theorem concealing_run (w : World) (commands : List (Bool × Command)) :
    w.concealing.run commands = (w.run commands).map (·.map Report.concealed) concealing := by
  induction commands generalizing w with
  | nil => rfl
  | cons first commands ih =>
    obtain ⟨inRuntime, command⟩ := first
    simp only [run, concealing_perform, Prod.map, ih]
    rfl

theorem concealing_answer (w : World) (turn : Turn) : w.concealing.answer turn = (w.answer turn).concealed := by
  cases turn with
  | command inRuntime command => exact congrArg Prod.fst (concealing_step w inRuntime command)
  | poll inRuntime place =>
    have there : w.concealing.calls[place]? = (w.calls[place]?).map fun pair => (pair.1, pair.2.under .conceal) :=
      List.getElem?_map ..
    simp only [answer, there]
    cases w.calls[place]? with
    | none => rfl
    | some pair =>
      simp only [Option.map_some, concealing_pollCall, Prod.map_fst]
      cases (w.pollCall inRuntime pair.2).1 <;> rfl
  | fly place => rfl

end World

end ChannelFeed
