import ChannelFeed.Http.Network

/-!
# Exchanges

An exchange is a request together with those it is redirected to. It ends with an outcome: either no
reply was obtained, or there is a status and a body, which may be incomplete. The limit of a caller is for the
whole of an exchange, up to the end of the body. A caller without one may wait for ever. No other time passes
than what replies take.
-/

namespace ChannelFeed.Http

/-- What came of an exchange from which nothing more will come. -/
inductive Outcome where
  | noHead (fault : TransportFault)
  /-- The caller waits for a head for ever. -/
  | silence
  /-- The body is `none` if a caller who wants all of it waits for ever. -/
  | answered (status : Nat) (body : Option (Except TransportFault (List UInt8)))

/-- How waiting for something ends. -/
inductive Waited where
  | inTime (left : Limit)
  | late
  | never

/-- Waits within a limit for something that takes so long. -/
def Limit.await (limit : Limit) (after : Option Nat) : Waited :=
  match limit, after with
  | none, some _ => .inTime none
  | none, none => .never
  | some limit, some after => if after < limit then .inTime (some (limit - after)) else .late
  | some _, none => .late

/-- What a reply means to the exchange. -/
inductive Verdict where
  | final (outcome : Outcome)
  | redirect (target : Url) (left : Limit)

/-- Where a reply to a request for `url` sends it. A location that is no URL, or cannot be sent, sends it
nowhere. -/
def Reply.target? (reply : Reply) (url : Url) : Option Url :=
  if isRedirect reply.status then
    reply.location.bind fun place => (url.resolve place).toOption.filter Network.canSend
  else none

def Reply.bodyRead (reply : Reply) (limit : Limit) : Option (Except TransportFault (List UInt8)) :=
  if isBodiless reply.status then some (.ok [])
  else
    match limit.await reply.bodyAfter with
    | .never => none
    | .late => some (.error (.noBody timedOut))
    | .inTime _ =>
      match reply.mishap with
      | some (.cutOff cause) => some (.error (.noBody cause))
      | _ => some (.ok reply.body)

/-- What a reply to a request for `url` means. -/
def Reply.verdict (reply : Reply) (url : Url) (limit : Limit) : Verdict :=
  match limit.await reply.headAfter with
  | .never => .final .silence
  | .late => .final (.noHead (.noHead url timedOut))
  | .inTime left =>
    match reply.mishap with
    | some (.headless cause) => .final (.noHead (.noHead url cause))
    | _ =>
      match reply.target? url with
      | some target => .redirect target left
      | none => .final (.answered reply.status (reply.bodyRead left))

def maxRedirects : Nat := 9

/-- Carries out an exchange that may still be redirected `redirects` times. -/
def Network.complete (net : Network) (url : Url) (limit : Limit) (redirects : Nat) : Outcome × Network :=
  match net.request url with
  | (.error fault, net) => (.noHead fault, net)
  | (.ok reply, net) =>
    match reply.verdict url limit with
    | .final outcome => (outcome, net)
    | .redirect target left =>
      match redirects with
      | 0 => (.noHead (.tooManyRedirects url), net)
      | redirects + 1 => net.complete target left redirects

/-- Carries out an exchange from its first request on. Credentials are no part of what is asked for; those
of a redirect stay in its URL. -/
def Network.exchange (net : Network) (url : Url) (limit : Limit) : Outcome × Network :=
  net.complete url.withoutCredentials limit maxRedirects

/-- Where an exchange stands. -/
inductive Exchange where
  | due (url : Url) (limit : Limit) (redirects : Nat)
  /-- A request has arrived as the `ticket`-th. What comes of it, be it that the limit is over, is kept back. -/
  | held (ticket : Nat) (url : Url) (limit : Limit) (redirects : Nat) (reply : Reply)
  | ended (outcome : Outcome)

namespace Exchange

def start (url : Url) (limit : Limit) : Exchange := .due url.withoutCredentials limit maxRedirects

/-- Takes an exchange to its end, or to the next request that arrives if those are `held` there. -/
def advance (held : Bool) (net : Network) : Exchange → Exchange × Network
  | .due url limit redirects =>
    if held then
      match net.request url with
      | (.error fault, next) => (.ended (.noHead fault), next)
      | (.ok reply, next) => (.held net.arrived.length url limit redirects reply, next)
    else
      let (outcome, net) := net.complete url limit redirects
      (.ended outcome, net)
  | e => (e, net)

/-- Lets the reply come to a request that is kept waiting. -/
def release : Exchange → Exchange
  | .held _ url limit redirects reply =>
    match reply.verdict url limit, redirects with
    | .final outcome, _ => .ended outcome
    | .redirect _ _, 0 => .ended (.noHead (.tooManyRedirects url))
    | .redirect target left, redirects + 1 => .due target left redirects
  | e => e

/-- When the request arrived that is kept waiting. -/
def ticket? : Exchange → Option Nat
  | .held ticket _ _ _ _ => some ticket
  | _ => none

def isDue : Exchange → Bool
  | .due _ _ _ => true
  | _ => false

end Exchange

end ChannelFeed.Http
