import ChannelFeed.Proofs.Feed.Concealing
import ChannelFeed.Proofs.Feed.Freshness

/-!
# Policies

The policy of a feed tells how a failure is presented to a caller who waited, and nothing else. Two worlds that differ in
their policies alone are the same world once failures are concealed, and so they stay the same but for what callers are
told of failures.
-/
namespace ChannelFeed

open Cache

theorem Call.Progress.polled_under (policy : FailurePolicy) (progress : Progress) :
    (progress.under policy).polled = progress.polled.under policy := by
  cases progress <;> rfl

/-- Among others a call makes the same moves under any policy, and ends with the same state. -/
theorem Among.under {s t : Shared (List Channel)} {c : Call} {moves : List Move} {polled : Polled Call ChannelState}
    (policy : FailurePolicy) (among : Among s c moves t polled) :
    Among s (c.under policy) moves t (polled.under policy) := by
  induction among with
  | start => exact .start
  | other before made ih => exact .other ih made
  | @own moves t u d before made ih =>
    have went := Among.own (d := d.under policy) ih made
    rw [Call.access_under, Prod.map_fst, Call.Progress.polled_under] at went
    exact went

namespace Answer

/-- How two runs answer the same call, whose feed has one policy in the one and another in the other: alike, but that a
failure is reported where it is surfaced and reads as no channels where it is concealed. -/
inductive Alike : FailurePolicy → FailurePolicy → Answer → Answer → Prop
  | pending (policy other : FailurePolicy) : Alike policy other .pending .pending
  | given (policy other : FailurePolicy) (channels : List Channel) :
    Alike policy other (.result (.ok channels)) (.result (.ok channels))
  | surfaced (text : String) :
    Alike .surface .surface (.result (.error (.fetch text))) (.result (.error (.fetch text)))
  | surfacedHere (text : String) : Alike .surface .conceal (.result (.error (.fetch text))) (.result (.ok []))
  | surfacedThere (text : String) : Alike .conceal .surface (.result (.ok [])) (.result (.error (.fetch text)))

theorem alike_resolve (policy other : FailurePolicy) (state : ChannelState) :
    Alike policy other (.result (policy.resolve state)) (.result (other.resolve state)) := by
  cases state with
  | pending => exact .given policy other []
  | ready channels => exact .given policy other channels
  | failed text =>
    cases policy with
    | conceal =>
      cases other with
      | conceal => exact .given .conceal .conceal []
      | surface => exact .surfacedThere text
    | surface =>
      cases other with
      | conceal => exact .surfacedHere text
      | surface => exact .surfaced text

/-- Answers that are the same if failures are concealed are the same, unless they are results or tell a policy. -/
theorem eq_of_concealed {a b : Answer} (same : b.concealed = a.concealed) (told : ∀ given, a ≠ .result given) :
    b = a ∨ ∃ own policy, a = .options own ∧ b = .options { own with policy } := by
  cases a with
  | result given => exact absurd rfl (told given)
  | options own =>
    cases b with
    | options other =>
      obtain ⟨focus, reconnect, policy⟩ := own
      obtain ⟨focus', reconnect', policy'⟩ := other
      cases same
      exact .inr ⟨_, policy', rfl, rfl⟩
    | _ => cases same
  | _ =>
    cases b with
    | _ => cases same <;> exact .inl rfl

end Answer

namespace World

theorem withHandle_ne {β : Type} {w : World} {handle : Option β} {f : β → Answer × World}
    {given : Except Failure (List Channel)} (each : ∀ x, (f x).1 ≠ .result given) :
    (w.withHandle handle f).1 ≠ .result given := by
  cases handle with
  | none =>
    intro same
    cases same
  | some x => exact each x

theorem answer_pollWait_ne (w : World) (name : String) (wait : Wait) (others : Names Wait)
    (given : Except Failure (List Channel)) : (w.pollWait name wait others).1 ≠ .result given := by
  unfold pollWait
  cases wait.poll w.registry with
  | pending rest =>
    intro same
    cases same
  | done slot =>
    intro same
    cases same

theorem answer_ne_result {w : World} {turn : Turn} (nobody : w.caller? turn = none)
    (given : Except Failure (List Channel)) : w.answer turn ≠ .result given := by
  cases turn with
  | fly place =>
    intro same
    cases same
  | poll inRuntime place =>
    have none : w.calls[place]? = none := Option.map_eq_none_iff.mp nobody
    intro same
    simp only [answer, none] at same
    cases same
  | command inRuntime command =>
    cases command with
    | load number name | refetch number name =>
      have none : w.feeds[number]? = none := Option.map_eq_none_iff.mp nobody
      intro same
      simp only [answer, step, none] at same
      cases same
    | next stream =>
      refine withHandle_ne fun x same => ?_
      split at same <;> cases same
    | channels | cancel | state | invalidate | notify | options | subscribe | current | watchState | changed
    | intoStream | settle | dropClaim | look | mark | claimKept | dropWait | letGo =>
      refine withHandle_ne fun x same => ?_
      cases same
    | wait | pollWait => exact withHandle_ne fun x => answer_pollWait_ne w _ _ _ given
    | _ =>
      intro same
      cases same

section
variable {w w' : World} {c c' : Call}

theorem alike_pollCall (same : w'.concealing = w.concealing) (call : c'.under .conceal = c.under .conceal)
    (inRuntime : Bool) :
    Answer.Alike c.feed.options.policy c'.feed.options.policy (w.pollCall inRuntime c).1.answer
      (w'.pollCall inRuntime c').1.answer := by
  have here := concealing_advance w inRuntime c maxAccesses
  have there := concealing_advance w' inRuntime c' maxAccesses
  rw [same, call, here] at there
  have polls := congrArg Prod.fst there
  unfold pollCall
  generalize w.advance inRuntime c maxAccesses = advanced at polls ⊢
  generalize w'.advance inRuntime c' maxAccesses = advanced' at polls ⊢
  obtain ⟨polled, _⟩ := advanced
  obtain ⟨polled', _⟩ := advanced'
  cases polled with
  | pending rest =>
    cases polled' with
    | pending rest' => exact .pending _ _
    | done state => cases polls
  | done state =>
    cases polled' with
    | pending rest => cases polls
    | done state' =>
      cases polls
      exact Answer.alike_resolve _ _ state

theorem same_getElem? {α β : Type} {f : α → β} {l l' : List α} (same : l'.map f = l.map f) {n : Nat} {x : α}
    (there : l[n]? = some x) : ∃ y, l'[n]? = some y ∧ f y = f x := by
  have mapped : (l'.map f)[n]? = some (f x) := by rw [same, List.getElem?_map, there, Option.map_some]
  rw [List.getElem?_map] at mapped
  exact Option.map_eq_some_iff.mp mapped

theorem same_entry {feed feed' : Feed} (same : w'.concealing = w.concealing)
    (feeds : feed'.under .conceal = feed.under .conceal) :
    (w'.entry feed').1 = (w.entry feed).1 ∧ (w'.entry feed').2.concealing = (w.entry feed).2.concealing := by
  have entered := concealing_entry w' feed'
  rw [same, feeds, concealing_entry w feed] at entered
  exact ⟨(congrArg Prod.fst entered).symm, (congrArg Prod.snd entered).symm⟩

/-- The calls that are made or polled in a turn of two worlds differ in the policies of their feeds alone, and are
answered alike. -/
theorem alike_answer (same : w'.concealing = w.concealing) {turn : Turn} (calls : w.caller? turn = some c) :
    ∃ c', w'.caller? turn = some c' ∧ c'.under .conceal = c.under .conceal ∧
      Answer.Alike c.feed.options.policy c'.feed.options.policy (w.answer turn) (w'.answer turn) := by
  cases turn with
  | fly place => cases calls
  | poll inRuntime place =>
    obtain ⟨pair, here, rfl⟩ := Option.map_eq_some_iff.mp calls
    obtain ⟨pair', there, pairs⟩ := same_getElem? (congrArg World.calls same) here
    have call : pair'.2.under .conceal = pair.2.under .conceal := congrArg Prod.snd pairs
    refine ⟨pair'.2, congrArg (Option.map Prod.snd) there, call, ?_⟩
    simp only [answer, here, there]
    exact alike_pollCall same call inRuntime
  | command inRuntime command =>
    cases command with
    | load number name =>
      obtain ⟨feed, here, rfl⟩ := Option.map_eq_some_iff.mp calls
      obtain ⟨feed', there, feeds⟩ := same_getElem? (congrArg World.feeds same) here
      obtain ⟨entry, entered⟩ := same_entry same feeds
      have call : (Call.load feed' (w'.entry feed').1).under .conceal =
          (Call.load feed (w.entry feed).1).under .conceal := by
        simp only [Call.load, Call.under, feeds, entry]
      refine ⟨_, congrArg (Option.map _) there, call, ?_⟩
      simp only [answer, step, here, there, withHandle, load, answer_begin]
      exact alike_pollCall entered call inRuntime
    | refetch number name =>
      obtain ⟨feed, here, rfl⟩ := Option.map_eq_some_iff.mp calls
      obtain ⟨feed', there, feeds⟩ := same_getElem? (congrArg World.feeds same) here
      obtain ⟨entry, entered⟩ := same_entry same feeds
      have registry : (w'.entry feed').2.registry = (w.entry feed).2.registry :=
        (congrArg World.registry entered :)
      have call : (Call.refetch feed' (w'.entry feed').1
            ((w'.entry feed').2.registry.markStale (w'.entry feed').1).1).under .conceal =
          (Call.refetch feed (w.entry feed).1 ((w.entry feed).2.registry.markStale (w.entry feed).1).1).under
            .conceal := by
        simp only [Call.refetch, Call.under, feeds, entry, registry]
      have marked : concealing { (w'.entry feed').2 with
            registry := ((w'.entry feed').2.registry.markStale (w'.entry feed').1).2 } =
          concealing { (w.entry feed).2 with
            registry := ((w.entry feed).2.registry.markStale (w.entry feed).1).2 } := by
        rw [entry, registry]
        exact congrArg (fun x : World =>
          { x with registry := ((w.entry feed).2.registry.markStale (w.entry feed).1).2 }) entered
      refine ⟨_, congrArg (Option.map _) there, call, ?_⟩
      simp only [answer, step, here, there, withHandle, refetch, answer_begin]
      exact alike_pollCall marked call inRuntime
    | _ => cases calls

end

theorem answer_ne_error {w : World} {turn : Turn} {c : Call} (calls : w.caller? turn = some c)
    (conceals : c.feed.options.policy = .conceal) (failure : Failure) : w.answer turn ≠ .result (.error failure) := by
  obtain ⟨c', same, -, alike⟩ := alike_answer rfl calls
  obtain rfl := Option.some.inj (calls.symm.trans same)
  rw [conceals] at alike
  intro failed
  rw [failed] at alike
  cases alike

end World

/-- The policies of feeds tell how failures are presented, and nothing else. A call makes the same accesses under any
policy, however those of others are mixed with them. Two worlds that begin with feeds that differ in their policies
alone have the same slots and the same requests after the same turns, whoever the caches are shared with, and every call
is answered alike by the policy of its own feed; what else is asked has the same answer, but for the policy itself. A
call whose feed conceals failures is never given one. If all feeds conceal failures, a run of commands gives the reports
that it gives otherwise, with the failures concealed. -/
theorem policy_is_presentational :
    (∀ {s t : Shared (List Channel)} {c : Call} {moves : List Move} {polled : Polled Call ChannelState}
        (policy : FailurePolicy),
      Among s c moves t polled → Among s (c.under policy) moves t (polled.under policy)) ∧
    (∀ (network : Http.Network) (caches : Nat) (feeds others : List Feed),
      others.map (·.under .conceal) = feeds.map (·.under .conceal) → ∀ (past : List Turn) (turn : Turn),
        let w := (World.start network caches feeds).turns past
        let w' := (World.start network caches others).turns past
        w'.registry = w.registry ∧ w'.network = w.network ∧ w'.concealing = w.concealing ∧
          (∀ c, w.caller? turn = some c →
            ∃ c', w'.caller? turn = some c' ∧ c'.under .conceal = c.under .conceal ∧
              Answer.Alike c.feed.options.policy c'.feed.options.policy (w.answer turn) (w'.answer turn)) ∧
          (w.caller? turn = none → w'.answer turn = w.answer turn ∨
            ∃ own policy, w.answer turn = .options own ∧ w'.answer turn = .options { own with policy })) ∧
    (∀ (network : Http.Network) (caches : Nat) (feeds : List Feed) (past : List Turn) (turn : Turn) (c : Call),
      ((World.start network caches feeds).turns past).caller? turn = some c → c.feed.options.policy = .conceal →
        ∀ failure, ((World.start network caches feeds).turns past).answer turn ≠ .result (.error failure)) ∧
    ∀ (network : Http.Network) (caches : Nat) (feeds : List Feed) (commands : List (Bool × Command)),
      ((World.start network caches (feeds.map (·.under .conceal))).run commands).1 =
        ((World.start network caches feeds).run commands).1.map World.Report.concealed := by
  refine ⟨fun policy among => among.under policy, ?_, ?_, ?_⟩
  · intro network caches feeds others alone past turn w w'
    have same : w'.concealing = w.concealing := by
      rw [← World.concealing_turns, ← World.concealing_turns, World.concealing_start, World.concealing_start, alone]
    refine ⟨(congrArg World.registry same :), (congrArg World.network same :), same, ?_, ?_⟩
    · intro c calls
      exact World.alike_answer same calls
    · intro nobody
      refine Answer.eq_of_concealed ?_ (World.answer_ne_result nobody)
      rw [← World.concealing_answer, ← World.concealing_answer, same]
  · intro network caches feeds past turn c calls conceals
    exact World.answer_ne_error calls conceals
  · intro network caches feeds commands
    exact congrArg Prod.fst (World.concealing_run (World.start network caches feeds) commands)

namespace Offline

/-- Feeds under these policies, which share a cache. -/
def feeds (policies : List FailurePolicy) : List Feed :=
  policies.map fun policy => .onLocalhost ⟨false, false, policy⟩

def begun (policies : List FailurePolicy) : World := .start (.answering []) 1 (feeds policies)

/-- Two feeds load while a claim is taken, which then fails. -/
def past : List Turn :=
  [.command true (.claim 0 "claim"), .command true (.load 0 "first"), .command true (.load 1 "second"),
    .command true (.settle "claim" (.failed "offline"))]

/-- What is shared when the slot of the feeds has been made. -/
def made : Shared (List Channel) := ⟨⟨[⟨.fresh, 0⟩], [[(channelsKey, 0)]]⟩, [], 0⟩

theorem claims (policy : FailurePolicy) :
    ∃ moves t rest, Among made (.load (.onLocalhost ⟨false, false, policy⟩) 0) moves t (.pending rest) :=
  ⟨_, _, _, .own .start rfl⟩

end Offline

/-- A failure is told to the first of two feeds if it surfaces failures, and not otherwise. -/
theorem told_if_surfaced :
    (∃ moves t rest, Among Offline.made (.load (.onLocalhost .default) 0) moves t rest) ∧
    ((Offline.begun [.surface, .conceal]).turns Offline.past).answer (.poll true 0) =
      .result (.error (.fetch "offline")) ∧
    ((Offline.begun [.conceal, .conceal]).turns Offline.past).answer (.poll true 0) = .result (.ok []) ∧
    ∀ failure, ((Offline.begun [.conceal, .surface]).turns Offline.past).answer (.poll true 0) ≠
      .result (.error failure) := by
  obtain ⟨moves, t, rest, among⟩ := Offline.claims .surface
  have told : ((Offline.begun [.surface, .conceal]).turns Offline.past).answer (.poll true 0) =
    .result (.error (.fetch "offline")) := rfl
  refine ⟨⟨moves, t, _, policy_is_presentational.1 .conceal among⟩, told, ?_, ?_⟩
  · obtain ⟨c', calls, -, alike⟩ := (policy_is_presentational.2.1 (.answering []) 1
      (Offline.feeds [.surface, .conceal]) (Offline.feeds [.conceal, .conceal]) rfl Offline.past
      (.poll true 0)).2.2.2.1 _ rfl
    have conceals : c'.feed.options.policy = .conceal := by
      cases calls
      rfl
    rw [conceals] at alike
    change Answer.Alike .surface .conceal (.result (.error (.fetch "offline")))
      (((Offline.begun [.conceal, .conceal]).turns Offline.past).answer (.poll true 0)) at alike
    generalize ((Offline.begun [.conceal, .conceal]).turns Offline.past).answer (.poll true 0) = answer at alike ⊢
    cases alike
    rfl
  · exact policy_is_presentational.2.2.1 _ 1 _ Offline.past (.poll true 0) _ rfl rfl

end ChannelFeed
