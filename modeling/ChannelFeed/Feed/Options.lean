/-!
# Options of a feed
-/

namespace ChannelFeed

/-- What a caller who waits for channels learns of a failed fetch. -/
inductive FailurePolicy where
  | conceal
  | surface
deriving DecidableEq, Repr

/-- What happens outside that may be a reason to fetch again. -/
inductive Trigger where
  | focus
  | reconnect
deriving DecidableEq, Repr

structure Options where
  refetchOnFocus : Bool
  refetchOnReconnect : Bool
  policy : FailurePolicy
deriving DecidableEq, Repr

namespace Options

/-- Nothing but a call fetches again, and failures are concealed. -/
def default : Options := ⟨false, false, .conceal⟩

/-- Whether a trigger is a reason to fetch again. -/
def allows (o : Options) : Trigger → Bool
  | .focus => o.refetchOnFocus
  | .reconnect => o.refetchOnReconnect

end Options

end ChannelFeed
