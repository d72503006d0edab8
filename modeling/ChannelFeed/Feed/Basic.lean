import ChannelFeed.Cache.Registry
import ChannelFeed.Feed.Options
import ChannelFeed.Request

/-!
# Feeds

A feed gives out the channels of a service through a cache, which it may share with other feeds. It fetches
them once and again only when they are asked for anew.
-/

namespace ChannelFeed

open Cache

abbrev ChannelState := FetchState (List Channel)

structure Feed where
  client : Client
  options : Options
  /-- The cache in which the channels are kept. -/
  cache : Nat

def channelsKey : String := "channels"

namespace ChannelState

/-- The channels to be shown: none as long as nothing is known, and none after a failure. -/
def shown (s : ChannelState) : List Channel := s.value?.getD []

/-- Equality of states, records being compared as records. -/
def same : ChannelState → ChannelState → Bool
  | .pending, .pending => true
  | .ready a, .ready b => Channel.sameList a b
  | .failed a, .failed b => a == b
  | _, _ => false

theorem same_self (s : ChannelState) : same s s = true := by
  cases s with
  | pending => rfl
  | ready channels => exact Channel.sameList_self channels
  | failed text => exact beq_self_eq_true text

theorem sameList_shown {a b : ChannelState} (equal : same a b = true) : Channel.sameList (shown a) (shown b) = true := by
  cases a with
  | pending =>
    cases b with
    | pending => rfl
    | _ => cases equal
  | ready channels =>
    cases b with
    | ready others => exact equal
    | _ => cases equal
  | failed text =>
    cases b with
    | failed other => rfl
    | _ => cases equal

def ofFetch : Except RequestFailure (List Channel) → ChannelState
  | .ok channels => .ready channels
  | .error failure => .failed failure.message

theorem isPending_ofFetch (outcome : Except RequestFailure (List Channel)) : (ofFetch outcome).isPending = false := by
  cases outcome <;> rfl

end ChannelState

/-- What a caller is given who waited for a state. -/
def FailurePolicy.resolve (policy : FailurePolicy) : ChannelState → Except Failure (List Channel)
  | .ready channels => .ok channels
  | .failed text =>
    match policy with
    | .conceal => .ok []
    | .surface => .error (.fetch text)
  | .pending => .ok []

end ChannelFeed
