/-!
# The HTTP library

What is left to the library that carries requests: whether a client can be built at all. What it makes of requests and
replies is in the modules of exchanges.
-/

namespace ChannelFeed.Http

/-- For how many milliseconds a caller waits, if not for ever. -/
abbrev Limit := Option Nat

/-- Why no client is built, as it is told and as it is written out with its parts. -/
structure Refusal where
  message : String
  parts : String

/-- What a library has against a client that waits so long, if anything. -/
abbrev Library := Limit → Option Refusal

def Library.obliging : Library := fun _ => none

end ChannelFeed.Http
