import ChannelFeed.Http.Exchange

/-!
# What exchanges come to

An exchange is a chain of requests: the first one and those that replies lead to. What comes of it is known as soon
as it is under way, so keeping a request waiting for its reply changes nothing but the time at which it is known.
-/

namespace ChannelFeed.Http

/-- A request for a URL is sent on a network within a limit, and behind it those that replies lead to, so many of them
at most. This is what comes of the last one, and how the network is left. -/
inductive Chain : Network → Url → Limit → (redirects : Nat) → Outcome → Network → Prop
  /-- The request does not arrive. -/
  | unsent {net after : Network} {url : Url} {limit : Limit} {redirects : Nat} {fault : TransportFault}
    (refused : net.request url = (.error fault, after)) :
    Chain net url limit redirects (.noHead fault) after
  | final {net after : Network} {url : Url} {limit : Limit} {redirects : Nat} {reply : Reply} {outcome : Outcome}
    (sent : net.request url = (.ok reply, after)) (meant : reply.verdict url limit = .final outcome) :
    Chain net url limit redirects outcome after
  | exhausted {net after : Network} {url target : Url} {limit left : Limit} {reply : Reply}
    (sent : net.request url = (.ok reply, after)) (meant : reply.verdict url limit = .redirect target left) :
    Chain net url limit 0 (.noHead (.tooManyRedirects url)) after
  | redirected {net after last : Network} {url target : Url} {limit left : Limit} {redirects : Nat} {reply : Reply}
    {outcome : Outcome} (sent : net.request url = (.ok reply, after))
    (meant : reply.verdict url limit = .redirect target left) (rest : Chain after target left redirects outcome last) :
    Chain net url limit (redirects + 1) outcome last

/-- What comes of an exchange that begins with a URL, and how it leaves the network. -/
def Exchanged (net : Network) (url : Url) (limit : Limit) (outcome : Outcome) (after : Network) : Prop :=
  Chain net url.withoutCredentials limit maxRedirects outcome after

variable {net after : Network} {url : Url} {limit : Limit} {redirects : Nat} {outcome : Outcome}

theorem Chain.complete (chain : Chain net url limit redirects outcome after) :
    net.complete url limit redirects = (outcome, after) := by
  induction chain with
  | unsent refused =>
    unfold Network.complete
    simp only [refused]
  | final sent meant =>
    unfold Network.complete
    simp only [sent, meant]
  | exhausted sent meant =>
    unfold Network.complete
    simp only [sent, meant]
  | redirected sent meant rest ih =>
    unfold Network.complete
    simp only [sent, meant, ih]

theorem chain_complete (net : Network) (url : Url) (limit : Limit) (redirects : Nat) :
    Chain net url limit redirects (net.complete url limit redirects).1 (net.complete url limit redirects).2 := by
  fun_induction Network.complete net url limit redirects with
  | case1 net url limit redirects fault after refused => exact .unsent refused
  | case2 net url limit redirects reply after sent outcome meant => exact .final sent meant
  | case3 net url limit reply after sent target left meant => exact .exhausted sent meant
  | case4 net url limit reply after sent target left meant redirects ih => exact .redirected sent meant ih

theorem exchanged_iff : Exchanged net url limit outcome after ↔ net.exchange url limit = (outcome, after) := by
  refine ⟨Chain.complete, fun carried => ?_⟩
  have chain := chain_complete net url.withoutCredentials limit maxRedirects
  change Chain net _ _ _ (net.exchange url limit).1 (net.exchange url limit).2 at chain
  rwa [carried] at chain

theorem exchanged (net : Network) (url : Url) (limit : Limit) :
    Exchanged net url limit (net.exchange url limit).1 (net.exchange url limit).2 :=
  exchanged_iff.mpr rfl

/-- Who waits within a limit waits in vain or has time left, but does not wait for ever. -/
theorem Limit.await_some (most : Nat) (after : Option Nat) :
    Limit.await (some most) after = .late ∨ ∃ left, Limit.await (some most) after = .inTime (some left) := by
  cases after with
  | none => exact .inl rfl
  | some passed =>
    rw [Limit.await]
    split
    · exact .inr ⟨_, rfl⟩
    · exact .inl rfl

/-- An outcome where neither a head nor a body is waited for for ever. -/
inductive Outcome.Ends : Outcome → Prop
  | noHead (fault : TransportFault) : Ends (.noHead fault)
  | answered (status : Nat) (body : Except TransportFault (List UInt8)) : Ends (.answered status (some body))

theorem Reply.ends_of_verdict {reply : Reply} {most : Nat} (meant : reply.verdict url (some most) = .final outcome) :
    outcome.Ends := by
  have bodyEnds (left : Nat) : ∃ body, reply.bodyRead (some left) = some body := by
    unfold Reply.bodyRead
    split
    · exact ⟨_, rfl⟩
    · obtain late | ⟨left, inTime⟩ := Limit.await_some left reply.bodyAfter
      · exact ⟨_, by rw [late]⟩
      · rw [inTime]
        dsimp only
        split <;> exact ⟨_, rfl⟩
  unfold Reply.verdict at meant
  obtain late | ⟨left, inTime⟩ := Limit.await_some most reply.headAfter
  · rw [late] at meant
    cases meant
    exact .noHead _
  · rw [inTime] at meant
    obtain ⟨body, ends⟩ := bodyEnds left
    dsimp only at meant
    split at meant
    · cases meant
      exact .noHead _
    · split at meant <;> cases meant
      rw [ends]
      exact .answered _ _

theorem Reply.limited_of_verdict {reply : Reply} {most : Nat} {target : Url} {left : Limit}
    (meant : reply.verdict url (some most) = .redirect target left) : ∃ most, left = some most := by
  unfold Reply.verdict at meant
  obtain late | ⟨rest, inTime⟩ := Limit.await_some most reply.headAfter
  · rw [late] at meant
    cases meant
  · rw [inTime] at meant
    dsimp only at meant
    split at meant
    · cases meant
    · split at meant <;> cases meant
      exact ⟨rest, rfl⟩

/-- Whoever waits within a limit learns what came of the exchange. -/
theorem Chain.ends (chain : Chain net url limit redirects outcome after) (limited : limit.isSome = true) :
    outcome.Ends := by
  induction chain with
  | unsent refused => exact .noHead _
  | final sent meant =>
    obtain ⟨most, rfl⟩ := Option.isSome_iff_exists.mp limited
    exact Reply.ends_of_verdict meant
  | exhausted sent meant => exact .noHead _
  | redirected sent meant rest ih =>
    obtain ⟨most, rfl⟩ := Option.isSome_iff_exists.mp limited
    obtain ⟨left, rfl⟩ := Reply.limited_of_verdict meant
    exact ih rfl

/-- What comes of an exchange that is in progress, if no other request arrives meanwhile. -/
def Exchange.rest (net : Network) : Exchange → Outcome × Network
  | .due url limit redirects => net.complete url limit redirects
  | .held _ url limit redirects reply =>
    match reply.verdict url limit, redirects with
    | .final outcome, _ => (outcome, net)
    | .redirect _ _, 0 => (.noHead (.tooManyRedirects url), net)
    | .redirect target left, redirects + 1 => net.complete target left redirects
  | .ended outcome => (outcome, net)

namespace Exchange

theorem rest_release (net : Network) (e : Exchange) : e.release.rest net = e.rest net := by
  cases e with
  | held ticket url limit redirects reply =>
    simp only [release, rest]
    cases reply.verdict url limit with
    | final outcome => rfl
    | redirect target left => cases redirects <;> rfl
  | _ => rfl

/-- When its first request has arrived, what is left of an exchange is up to the reply. -/
theorem complete_eq (net : Network) (url : Url) (limit : Limit) (redirects ticket : Nat) :
    net.complete url limit redirects =
      match net.request url with
      | (.error fault, after) => (.noHead fault, after)
      | (.ok reply, after) => (held ticket url limit redirects reply).rest after := by
  rw [Network.complete.eq_def]
  obtain ⟨_ | reply, after⟩ := net.request url
  · rfl
  · simp only [rest]
    cases reply.verdict url limit with
    | final outcome => rfl
    | redirect target left => cases redirects <;> rfl

theorem rest_advance (isHeld : Bool) (net : Network) (e : Exchange) :
    (e.advance isHeld net).1.rest (e.advance isHeld net).2 = e.rest net := by
  cases e with
  | due url limit redirects =>
    cases isHeld with
    | false => rfl
    | true =>
      change _ = net.complete url limit redirects
      rw [complete_eq net url limit redirects net.arrived.length]
      simp only [advance, if_true]
      obtain ⟨_ | _, _⟩ := net.request url <;> rfl
  | _ => rfl

/-- An exchange that is let go, with nothing kept waiting any more, is taken to its end. -/
theorem advance_release (net : Network) (e : Exchange) :
    ∃ outcome after, e.release.advance false net = (.ended outcome, after) := by
  cases e with
  | held ticket url limit redirects reply =>
    unfold release
    dsimp only
    split
    · exact ⟨_, _, rfl⟩
    · exact ⟨_, _, rfl⟩
    · exact ⟨_, _, rfl⟩
  | _ => exact ⟨_, _, rfl⟩

end Exchange

/-- A request that is sent arrives, if it does, behind those that have arrived before. -/
theorem arrived_request (net : Network) (url : Url) : net.arrived <+: (net.request url).2.arrived := by
  unfold Network.request
  split
  · exact List.prefix_rfl
  · split
    · exact List.prefix_rfl
    · dsimp only
      split
      · exact List.prefix_rfl
      · exact List.prefix_append _ _

theorem arrived_complete (net : Network) (url : Url) (limit : Limit) (redirects : Nat) :
    net.arrived <+: (net.complete url limit redirects).2.arrived := by
  have first {net after : Network} {url : Url} {arrives : Except TransportFault Reply}
      (sent : net.request url = (arrives, after)) : net.arrived <+: after.arrived := by
    have arrived := arrived_request net url
    rwa [sent] at arrived
  fun_induction Network.complete net url limit redirects with
  | case1 net url limit redirects fault after refused => exact first refused
  | case2 net url limit redirects reply after sent outcome meant => exact first sent
  | case3 net url limit reply after sent target left meant => exact first sent
  | case4 net url limit reply after sent target left meant redirects ih => exact (first sent).trans ih

theorem Exchange.arrived_rest (net : Network) (e : Exchange) : net.arrived <+: (e.rest net).2.arrived := by
  cases e with
  | due url limit redirects => exact arrived_complete net url limit redirects
  | held ticket url limit redirects reply =>
    unfold rest
    dsimp only
    split
    · exact List.prefix_rfl
    · exact List.prefix_rfl
    · exact arrived_complete ..
  | ended outcome => exact List.prefix_rfl

end ChannelFeed.Http
