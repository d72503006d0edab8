import ChannelFeed.Channel.Decoding
import ChannelFeed.Endpoint
import ChannelFeed.Http.Exchange

/-!
# Requests to a service

Reading a resource of a service. Whatever goes wrong is reported with the URL of the resource, also when
the exchange was redirected. What is logged on the way is left out.
-/

namespace ChannelFeed

open Http

/-- Why a resource could not be read. -/
inductive RequestFailure.Cause where
  /-- No reply, or not all of its body, was obtained. -/
  | transport (fault : TransportFault)
  | status (code : Nat)
  | body (fault : Json.Fault)

structure RequestFailure where
  endpoint : Url
  cause : RequestFailure.Cause

def RequestFailure.message (f : RequestFailure) : String :=
  let url := f.endpoint.text
  match f.cause with
  | .transport fault => "Request to " ++ url ++ " failed: " ++ fault.message
  | .status code => "Request to " ++ url ++ " failed with status " ++ statusText code
  | .body fault => "Invalid response body from " ++ url ++ ": " ++ fault.message

/-- The value in the body of a reply, unless it is waited for for ever. The status is looked at before the body. -/
def jsonOf (endpoint : Url) : Outcome → Option (Except RequestFailure Json)
  | .noHead fault => some (.error ⟨endpoint, .transport fault⟩)
  | .silence => none
  | .answered status body =>
    if !isSuccess status then some (.error ⟨endpoint, .status status⟩)
    else
      match body with
      | none => none
      | some (.error fault) => some (.error ⟨endpoint, .transport fault⟩)
      | some (.ok bytes) =>
        match Json.read bytes with
        | .error fault => some (.error ⟨endpoint, .body fault⟩)
        | .ok v => some (.ok v)

/-- The member of an envelope that holds the channels. A value that is no object has none. -/
def channelsMember : Json → Json
  | .object members => (Json.lookup "channels" members).getD .null
  | _ => .null

/-- The channels in an envelope. Without any the list is empty. -/
def channelsIn (v : Json) : Except Json.Cause (List Channel) :=
  match channelsMember v with
  | .null => .ok []
  | member => ChannelList.ofJson member

/-- The channels in the body of a reply, unless it is waited for for ever. -/
def channelsOf (endpoint : Url) (outcome : Outcome) : Option (Except RequestFailure (List Channel)) :=
  match jsonOf endpoint outcome with
  | none => none
  | some (.error failure) => some (.error failure)
  | some (.ok v) =>
    match channelsIn v with
    | .ok channels => some (.ok channels)
    | .error cause => some (.error ⟨endpoint, .body ⟨cause, none⟩⟩)

def BaseUrl.channels (base : BaseUrl) : Url := base.endpoint "channels"

/-- A client of a service, which waits so long for each exchange. -/
structure Client where
  base : BaseUrl
  limit : Limit

namespace Client

/-- A client of the service at an address, if the library builds one. The address is looked at first. -/
def make (library : Library) (address : String) (limit : Limit) : Except Failure Client :=
  match BaseUrl.parse address with
  | .error failure => .error failure
  | .ok base =>
    match library limit with
    | some refusal => .error (.client refusal)
    | none => .ok ⟨base, limit⟩

theorem make_eq_ok {library : Library} {address : String} {limit : Limit} {client : Client} :
    make library address limit = .ok client ↔
      BaseUrl.parse address = .ok client.base ∧ library limit = none ∧ client.limit = limit := by
  unfold make
  cases BaseUrl.parse address with
  | error failure => exact ⟨nofun, fun made => nomatch made.1⟩
  | ok base =>
    cases library limit with
    | some refusal => exact ⟨nofun, fun made => nomatch made.2.1⟩
    | none =>
      constructor
      · rintro ⟨⟩
        exact ⟨rfl, rfl, rfl⟩
      · rintro ⟨⟨⟩, -, ⟨⟩⟩
        rfl

/-- No client is made of an address that is no base URL, or because the library refuses. -/
theorem make_eq_error {library : Library} {address : String} {limit : Limit} {failure : Failure} :
    make library address limit = .error failure ↔
      BaseUrl.parse address = .error failure ∨
        ∃ base refusal, BaseUrl.parse address = .ok base ∧ library limit = some refusal ∧ failure = .client refusal := by
  unfold make
  cases BaseUrl.parse address with
  | error unusable =>
    refine ⟨fun failed => ?_, fun failed => ?_⟩
    · cases failed
      exact .inl rfl
    · obtain failed | ⟨_, _, usable, -, -⟩ := failed
      · cases failed
        rfl
      · cases usable
  | ok base =>
    cases library limit with
    | none =>
      refine ⟨nofun, fun failed => ?_⟩
      obtain unusable | ⟨_, _, -, refused, -⟩ := failed
      · cases unusable
      · cases refused
    | some refusal =>
      refine ⟨fun refused => ?_, fun failed => ?_⟩
      · cases refused
        exact .inr ⟨base, refusal, rfl, rfl, rfl⟩
      · obtain unusable | ⟨_, _, -, refused, rfl⟩ := failed
        · cases unusable
        · cases refused
          rfl

/-- Reads the value of a resource, unless it is waited for for ever. -/
def getJson (client : Client) (segment : String) (net : Network) : Option (Except RequestFailure Json) × Network :=
  let (outcome, net) := net.exchange (client.base.endpoint segment) client.limit
  (jsonOf (client.base.endpoint segment) outcome, net)

/-- Reads the channels of a service, unless they are waited for for ever. -/
def fetchChannels (client : Client) (net : Network) : Option (Except RequestFailure (List Channel)) × Network :=
  let (outcome, net) := net.exchange client.base.channels client.limit
  (channelsOf client.base.channels outcome, net)

end Client

end ChannelFeed
