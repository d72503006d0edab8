import ChannelFeed.Proofs.Channel.Verbatim
import ChannelFeed.Proofs.Http.Exchanges
import ChannelFeed.Proofs.Json.TypedReading

/-!
# What outcomes are taken for

However an exchange ends, reading a resource comes to one thing. The faults are looked for in the order in which a
reply comes in: first its head, then its status, then its body, and only then what the body holds. Nothing is read
only of what is waited for for ever. Main statement: `outcomes_are_told_apart`.
-/

namespace ChannelFeed

open Http Json

/-- A text is one value that can be represented, with nothing but blanks around it. -/
def Json.IsText (text : List UInt8) (v : Json) : Prop :=
  ∃ c, Reader.value Reader.maxDepth (.start text) = .ok (v, c) ∧ Reader.Blank c.rest

variable {text : List UInt8} {v : Json} {endpoint : Url} {outcome : Outcome}

theorem Json.isText_iff : IsText text v ↔ Json.read text = .ok v := by
  constructor
  · rintro ⟨⟨p, left⟩, read, blank⟩
    obtain ⟨q, ended⟩ := Reader.Reads.endOfText blank p
    exact Reader.whole?_eq_ok.mpr ⟨_, _, read, by simpa using ended⟩
  · intro read
    obtain ⟨c, d, read, ended⟩ := Reader.whole?_eq_ok.mp read
    exact ⟨c, read, Reader.blank_of_endOfText ended⟩

/-- What is read of an outcome at an endpoint, if it is not waited for for ever. -/
inductive Told (endpoint : Url) : Outcome → Option (Except RequestFailure Json) → Prop
  | unanswered {fault : TransportFault} : Told endpoint (.noHead fault) (some (.error ⟨endpoint, .transport fault⟩))
  | silence : Told endpoint .silence none
  /-- Whatever the body is, also if it never ends. -/
  | refused {status : Nat} {body : Option (Except TransportFault (List UInt8))} (outside : status < 200 ∨ 299 < status) :
    Told endpoint (.answered status body) (some (.error ⟨endpoint, .status status⟩))
  | endless {status : Nat} (success : 200 ≤ status ∧ status ≤ 299) : Told endpoint (.answered status none) none
  | cutOff {status : Nat} {fault : TransportFault} (success : 200 ≤ status ∧ status ≤ 299) :
    Told endpoint (.answered status (some (.error fault))) (some (.error ⟨endpoint, .transport fault⟩))
  | malformed {status : Nat} {text : List UInt8} {fault : Fault} (success : 200 ≤ status ∧ status ≤ 299)
    (noText : ∀ v, ¬ IsText text v) (noticed : Json.read text = .error fault) :
    Told endpoint (.answered status (some (.ok text))) (some (.error ⟨endpoint, .body fault⟩))
  | value {status : Nat} {text : List UInt8} {v : Json} (success : 200 ≤ status ∧ status ≤ 299)
    (isText : IsText text v) : Told endpoint (.answered status (some (.ok text))) (some (.ok v))

/-- What a value says of channels: its member of that name, if it has one that is not null. -/
inductive Encloses : Json → Option Json → Prop
  | noObject {v : Json} (other : ∀ members, v ≠ .object members) : Encloses v none
  | noMember {members : Members} (absent : lookup "channels" members = none) : Encloses (.object members) none
  | null {members : Members} (null : lookup "channels" members = some .null) : Encloses (.object members) none
  | member {members : Members} {a : Json} (found : lookup "channels" members = some a) (present : a ≠ .null) :
    Encloses (.object members) (some a)

/-- What channels are read of an outcome at an endpoint. -/
inductive Listed (endpoint : Url) (outcome : Outcome) : Option (Except RequestFailure (List Channel)) → Prop
  | waiting (told : Told endpoint outcome none) : Listed endpoint outcome none
  /-- A failure to read a value is passed on. -/
  | failed {failure : RequestFailure} (told : Told endpoint outcome (some (.error failure))) :
    Listed endpoint outcome (some (.error failure))
  | empty {v : Json} (told : Told endpoint outcome (some (.ok v))) (none : Encloses v none) :
    Listed endpoint outcome (some (.ok []))
  | foreign {v a : Json} {cause : Cause} (told : Told endpoint outcome (some (.ok v))) (given : Encloses v (some a))
    (noList : ¬ a.IsChannelList) (noticed : ChannelList.ofJson a = .error cause) :
    Listed endpoint outcome (some (.error ⟨endpoint, .body ⟨cause, none⟩⟩))
  | list {v a : Json} {channels : List Channel} (told : Told endpoint outcome (some (.ok v)))
    (given : Encloses v (some a)) (isList : a.IsChannelList) (decoded : ChannelList.ofJson a = .ok channels)
    (same : Json.array (channels.map Channel.toJson) = a) : Listed endpoint outcome (some (.ok channels))

theorem isSuccess_iff {status : Nat} : isSuccess status = true ↔ 200 ≤ status ∧ status ≤ 299 := by
  rw [isSuccess, Bool.and_eq_true, decide_eq_true_iff, decide_eq_true_iff, Nat.lt_succ_iff]

theorem told_jsonOf (endpoint : Url) (outcome : Outcome) : Told endpoint outcome (jsonOf endpoint outcome) := by
  fun_cases jsonOf endpoint outcome with
  | case1 fault => exact .unanswered
  | case2 => exact .silence
  | case3 status body refused =>
    rw [Bool.not_eq_true', ← Bool.not_eq_true, isSuccess_iff] at refused
    exact .refused (by omega)
  | case4 status success => exact .endless (isSuccess_iff.mp (by simpa using success))
  | case5 status success fault => exact .cutOff (isSuccess_iff.mp (by simpa using success))
  | case6 status success text fault noticed =>
    refine .malformed (isSuccess_iff.mp (by simpa using success)) (fun v isText => ?_) noticed
    cases noticed.symm.trans (isText_iff.mp isText)
  | case7 status success text v read =>
    exact .value (isSuccess_iff.mp (by simpa using success)) (isText_iff.mpr read)

theorem Told.eq {result : Option (Except RequestFailure Json)} (told : Told endpoint outcome result) :
    jsonOf endpoint outcome = result := by
  cases told with
  | unanswered | silence => rfl
  | @refused status body outside =>
    have refused : isSuccess status = false := by
      rw [← Bool.not_eq_true, isSuccess_iff]
      omega
    simp only [jsonOf, refused, Bool.not_false, if_true]
  | endless success | cutOff success =>
    simp only [jsonOf, isSuccess_iff.mpr success, Bool.not_true, Bool.false_eq_true, if_false]
  | malformed success _ noticed =>
    simp only [jsonOf, isSuccess_iff.mpr success, Bool.not_true, Bool.false_eq_true, if_false, noticed]
  | value success isText => exact jsonOf_answered (isSuccess_iff.mpr success) (isText_iff.mp isText)

theorem told_iff {result : Option (Except RequestFailure Json)} :
    jsonOf endpoint outcome = result ↔ Told endpoint outcome result :=
  ⟨fun is => is ▸ told_jsonOf endpoint outcome, Told.eq⟩

theorem exists_encloses (v : Json) : ∃ a, Encloses v a := by
  cases v with
  | object members =>
    cases found : lookup "channels" members with
    | none => exact ⟨none, .noMember found⟩
    | some a =>
      by_cases null : a = .null
      · exact ⟨none, .null (null ▸ found)⟩
      · exact ⟨some a, .member found null⟩
  | _ => exact ⟨none, .noObject fun _ is => nomatch is⟩

theorem Encloses.channelsIn_eq {a : Option Json} (encloses : Encloses v a) :
    channelsIn v = a.elim (.ok []) ChannelList.ofJson := by
  cases encloses with
  | noObject other =>
    cases v with
    | object members => exact absurd rfl (other members)
    | _ => rfl
  | noMember absent =>
    rw [channelsIn, channelsMember, absent]
    rfl
  | null null =>
    rw [channelsIn, channelsMember, null]
    rfl
  | @member members a found present =>
    cases a with
    | null => exact absurd rfl present
    | _ => simp only [channelsIn, channelsMember, found, Option.getD_some, Option.elim_some]

theorem channelsOf_of_jsonOf (read : jsonOf endpoint outcome = some (.ok v)) :
    channelsOf endpoint outcome =
      some ((channelsIn v).mapError fun cause => ⟨endpoint, .body ⟨cause, none⟩⟩) := by
  simp only [channelsOf, read]
  cases channelsIn v <;> rfl

theorem channelsOf_waiting (waits : jsonOf endpoint outcome = none) : channelsOf endpoint outcome = none := by
  simp only [channelsOf, waits]

theorem channelsOf_failed {failure : RequestFailure} (failed : jsonOf endpoint outcome = some (.error failure)) :
    channelsOf endpoint outcome = some (.error failure) := by
  simp only [channelsOf, failed]

theorem Told.exists_read (told : Told endpoint outcome (some (.ok v))) : ∃ text, Json.read text = .ok v := by
  cases told with
  | value _ isText => exact ⟨_, isText_iff.mp isText⟩

theorem Told.listed (told : Told endpoint outcome (some (.ok v))) :
    Listed endpoint outcome (some ((channelsIn v).mapError fun cause => ⟨endpoint, .body ⟨cause, none⟩⟩)) := by
  obtain ⟨a, encloses⟩ := exists_encloses v
  rw [encloses.channelsIn_eq]
  cases a with
  | none => exact .empty told encloses
  | some a =>
    rw [Option.elim_some]
    cases decoded : ChannelList.ofJson a with
    | error cause =>
      have noList : ¬ a.IsChannelList := fun isList => by
        obtain ⟨channels, made⟩ := ChannelList.ofJson_isOk.mpr isList
        cases decoded.symm.trans made
      exact .foreign told encloses noList decoded
    | ok channels =>
      obtain ⟨text, read⟩ := told.exists_read
      have fits : a.Fits 126 := by
        cases encloses with
        | member found _ =>
          cases fits_of_read read with
          | object _ fit => exact fit _ (mem_of_lookup found)
      exact .list told encloses (ChannelList.ofJson_isOk.mp ⟨channels, decoded⟩) decoded
        (ChannelList.kept_of_ofJson fits decoded).1

theorem listed_channelsOf (endpoint : Url) (outcome : Outcome) :
    Listed endpoint outcome (channelsOf endpoint outcome) := by
  have told := told_jsonOf endpoint outcome
  cases read : jsonOf endpoint outcome with
  | none => exact channelsOf_waiting read ▸ .waiting (read ▸ told)
  | some result =>
    rw [read] at told
    cases result with
    | error failure => exact channelsOf_failed read ▸ .failed told
    | ok v => exact channelsOf_of_jsonOf read ▸ told.listed

theorem Listed.eq {result : Option (Except RequestFailure (List Channel))} (listed : Listed endpoint outcome result) :
    channelsOf endpoint outcome = result := by
  cases listed with
  | waiting told => exact channelsOf_waiting told.eq
  | failed told => exact channelsOf_failed told.eq
  | empty told none =>
    rw [channelsOf_of_jsonOf told.eq, none.channelsIn_eq]
    rfl
  | foreign told given _ noticed =>
    rw [channelsOf_of_jsonOf told.eq, given.channelsIn_eq, Option.elim_some, noticed]
    rfl
  | list told given _ decoded _ =>
    rw [channelsOf_of_jsonOf told.eq, given.channelsIn_eq, Option.elim_some, decoded]
    rfl

theorem listed_iff {result : Option (Except RequestFailure (List Channel))} :
    channelsOf endpoint outcome = result ↔ Listed endpoint outcome result :=
  ⟨fun is => is ▸ listed_channelsOf endpoint outcome, Listed.eq⟩

/-- Something is read of an outcome where nothing is waited for for ever. -/
theorem Told.of_ends {result : Option (Except RequestFailure Json)} (told : Told endpoint outcome result)
    (ends : outcome.Ends) : result ≠ none := by
  rintro rfl
  cases told <;> cases ends

theorem Listed.of_ends {result : Option (Except RequestFailure (List Channel))}
    (listed : Listed endpoint outcome result) (ends : outcome.Ends) : result ≠ none := by
  rintro rfl
  cases listed with
  | waiting told => exact told.of_ends ends rfl

/-- A failure is reported with this URL. -/
structure RequestFailure.Reports (failure : RequestFailure) (url : Url) : Prop where
  endpoint : failure.endpoint = url
  message : ∃ opening rest, failure.message = opening ++ url.text ++ rest ∧
    (opening = "Request to " ∨ opening = "Invalid response body from ")

theorem RequestFailure.reports (failure : RequestFailure) : failure.Reports failure.endpoint := by
  refine ⟨rfl, ?_⟩
  obtain ⟨endpoint, cause⟩ := failure
  cases cause with
  | transport fault =>
    refine ⟨"Request to ", " failed: " ++ fault.message, ?_, .inl rfl⟩
    simp only [message, String.append_assoc]
  | status code =>
    refine ⟨"Request to ", " failed with status " ++ statusText code, ?_, .inl rfl⟩
    simp only [message, String.append_assoc]
  | body fault =>
    refine ⟨"Invalid response body from ", ": " ++ fault.message, ?_, .inr rfl⟩
    simp only [message, String.append_assoc]

theorem Told.reports {failure : RequestFailure} (told : Told endpoint outcome (some (.error failure))) :
    failure.Reports endpoint := by
  have here : failure.endpoint = endpoint := by cases told <;> rfl
  exact here ▸ failure.reports

theorem Listed.reports {failure : RequestFailure} (listed : Listed endpoint outcome (some (.error failure))) :
    failure.Reports endpoint := by
  cases listed with
  | failed told => exact told.reports
  | foreign _ _ _ _ => exact RequestFailure.reports _

section
variable {client : Client} {net after : Network}

theorem getJson_iff {segment : String} {result : Option (Except RequestFailure Json)} :
    client.getJson segment net = (result, after) ↔
      ∃ outcome, Exchanged net (client.base.endpoint segment) client.limit outcome after ∧
        Told (client.base.endpoint segment) outcome result := by
  constructor
  · intro read
    obtain ⟨is, left⟩ := Prod.mk.inj read
    exact ⟨_, left ▸ exchanged net _ _, told_iff.mp is⟩
  · rintro ⟨outcome, went, told⟩
    simp only [Client.getJson, exchanged_iff.mp went, told.eq]

theorem fetchChannels_iff {result : Option (Except RequestFailure (List Channel))} :
    client.fetchChannels net = (result, after) ↔
      ∃ outcome, Exchanged net client.base.channels client.limit outcome after ∧
        Listed client.base.channels outcome result := by
  constructor
  · intro read
    obtain ⟨is, left⟩ := Prod.mk.inj read
    exact ⟨_, left ▸ exchanged net _ _, listed_iff.mp is⟩
  · rintro ⟨outcome, went, listed⟩
    simp only [Client.fetchChannels, exchanged_iff.mp went, listed.eq]

theorem getJson_of_limit (net : Network) (segment : String) (limited : client.limit.isSome = true) :
    (client.getJson segment net).1 ≠ none := by
  obtain ⟨outcome, went, told⟩ := getJson_iff.mp (Prod.eta (client.getJson segment net)).symm
  exact told.of_ends (went.ends limited)

/-- Whoever waits within a limit is given channels or a failure. -/
theorem fetchChannels_of_limit (net : Network) (limited : client.limit.isSome = true) :
    (client.fetchChannels net).1 ≠ none := by
  obtain ⟨outcome, went, listed⟩ := fetchChannels_iff.mp (Prod.eta (client.fetchChannels net)).symm
  exact listed.of_ends (went.ends limited)

end

/-- At every endpoint each outcome is taken for one thing, and what is read of it, or of the channels in it, is that.
What a client of a service is given is what the outcome of its exchange is taken for, and within a limit it is given
something. Whatever is wrong is reported with the URL of the resource, and what is wrong with a value is also wrong with
the channels in it. -/
theorem outcomes_are_told_apart :
    (∀ endpoint outcome,
      (∀ result, jsonOf endpoint outcome = result ↔ Told endpoint outcome result) ∧
      ∀ result, channelsOf endpoint outcome = result ↔ Listed endpoint outcome result) ∧
    ∀ (client : Client) (net after : Network),
      (∀ segment result, client.getJson segment net = (result, after) ↔
        ∃ outcome, Exchanged net (client.base.endpoint segment) client.limit outcome after ∧
          Told (client.base.endpoint segment) outcome result) ∧
      (∀ result, client.fetchChannels net = (result, after) ↔
        ∃ outcome, Exchanged net client.base.channels client.limit outcome after ∧
          Listed client.base.channels outcome result) ∧
      (client.limit.isSome = true →
        (∀ segment, (client.getJson segment net).1 ≠ none) ∧ (client.fetchChannels net).1 ≠ none) ∧
      (∀ segment failure, client.getJson segment net = (some (.error failure), after) →
        failure.Reports (client.base.endpoint segment)) ∧
      (∀ failure, client.fetchChannels net = (some (.error failure), after) →
        failure.Reports (client.base.endpoint "channels")) ∧
      ∀ failure, client.getJson "channels" net = (some (.error failure), after) →
        client.fetchChannels net = (some (.error failure), after) := by
  refine ⟨fun endpoint outcome => ⟨fun result => told_iff, fun result => listed_iff⟩, ?_⟩
  intro client net after
  refine ⟨fun segment result => getJson_iff, fun result => fetchChannels_iff,
    fun limited => ⟨fun segment => getJson_of_limit net segment limited, fetchChannels_of_limit net limited⟩,
    fun segment failure failed => ?_, fun failure failed => ?_, fun failure failed => ?_⟩
  · obtain ⟨outcome, -, told⟩ := getJson_iff.mp failed
    exact told.reports
  · obtain ⟨outcome, -, listed⟩ := fetchChannels_iff.mp failed
    exact listed.reports
  · obtain ⟨outcome, went, told⟩ := getJson_iff.mp failed
    exact fetchChannels_iff.mpr ⟨outcome, went, .failed told⟩

namespace Elsewhere

/-- The service at `https://channels/`, for which a second is waited. -/
def client : Client :=
  ⟨⟨⟨"https".toList, some ⟨[], [], .name "channels".toList, none⟩, false, .listed [[]], none, none⟩, rfl⟩, some 1000⟩

/-- What is said in the other place, where the body never ends. -/
def reply : Reply := ⟨500, [], none, none, some 999, none⟩

/-- Replies that lead to another place, where the service fails while it says so. -/
def net : Network := .answering [.prompt 302 [] (some "/elsewhere") none, reply]

def after : Network :=
  { net with
    replies := [reply]
    arrived := ["GET https://channels/channels", "GET https://channels/elsewhere"] }

theorem told : client.getJson "channels" net = (some (.error ⟨client.base.channels, .status 500⟩), after) := rfl

/-- The status counts, although the body never ends, and the report does not name the place that was led to. -/
theorem failure_elsewhere_is_reported_here :
    client.getJson "channels" net = (some (.error ⟨client.base.channels, .status 500⟩), after) ∧
      client.fetchChannels net = (some (.error ⟨client.base.channels, .status 500⟩), after) ∧
      (client.fetchChannels .unreachable).1 ≠ none :=
  ⟨told, (outcomes_are_told_apart.2 client net after).2.2.2.2.2 _ told,
    ((outcomes_are_told_apart.2 client .unreachable after).2.2.1 rfl).2⟩

end Elsewhere

end ChannelFeed
