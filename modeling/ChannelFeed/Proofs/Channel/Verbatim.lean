import ChannelFeed.Proofs.Channel.Records
import ChannelFeed.Proofs.Json.Rereading
import ChannelFeed.Request

/-!
# Channels as the service gave them

A fetched list holds the records of the reply as they are and in their order, or none of them. Main
statement: `channels_are_kept_verbatim`.
-/

namespace ChannelFeed

open Http Json Json.Reader

namespace ChannelList

variable {v : Json} {items : List Json} {channels : List Channel} {room : Nat}

theorem mapM_cons_eq_ok {item : Json} : (item :: items).mapM Channel.ofJson = .ok channels ↔
    ∃ c rest, Channel.ofJson item = .ok c ∧ items.mapM Channel.ofJson = .ok rest ∧ channels = c :: rest := by
  rw [List.mapM_cons, bind_eq_ok]
  constructor
  · rintro ⟨c, first, decoded⟩
    obtain ⟨rest, others, decoded⟩ := bind_eq_ok.mp decoded
    exact ⟨c, rest, first, others, (Except.ok.inj decoded).symm⟩
  · rintro ⟨c, rest, first, others, rfl⟩
    exact ⟨c, first, bind_eq_ok.mpr ⟨rest, others, rfl⟩⟩

theorem mapM_isOk : (∃ channels, items.mapM Channel.ofJson = .ok channels) ↔ ∀ item ∈ items, item.IsChannel := by
  induction items with
  | nil => exact ⟨fun _ _ none => absurd none List.not_mem_nil, fun _ => ⟨[], rfl⟩⟩
  | cons item items ih =>
    rw [List.forall_mem_cons, ← ih, ← Channel.ofJson_isOk]
    constructor
    · rintro ⟨channels, decoded⟩
      obtain ⟨c, rest, first, others, -⟩ := mapM_cons_eq_ok.mp decoded
      exact ⟨⟨c, first⟩, rest, others⟩
    · rintro ⟨⟨c, first⟩, rest, others⟩
      exact ⟨c :: rest, mapM_cons_eq_ok.mpr ⟨c, rest, first, others, rfl⟩⟩

theorem ofJson_isOk : (∃ channels, ofJson v = .ok channels) ↔ v.IsChannelList := by
  cases v with
  | array items =>
    refine mapM_isOk.trans ⟨fun all => ⟨items, rfl, all⟩, ?_⟩
    rintro ⟨_, ⟨⟩, all⟩
    exact all
  | _ =>
    constructor
    · rintro ⟨_, ⟨⟩⟩
    · rintro ⟨_, ⟨⟩, -⟩

theorem kept_of_mapM (fits : ∀ item ∈ items, item.Fits (room + 1))
    (decoded : items.mapM Channel.ofJson = .ok channels) :
    channels.map Channel.toJson = items ∧ ∀ c ∈ channels, c.Kept room := by
  induction items generalizing channels with
  | nil =>
    cases decoded
    exact ⟨rfl, fun _ none => absurd none List.not_mem_nil⟩
  | cons item items ih =>
    obtain ⟨fitsFirst, fits⟩ := List.forall_mem_cons.mp fits
    obtain ⟨c, rest, first, others, rfl⟩ := mapM_cons_eq_ok.mp decoded
    obtain ⟨same, kept⟩ := Channel.kept_of_ofJson fitsFirst first
    obtain ⟨sameRest, keptRest⟩ := ih fits others
    refine ⟨?_, List.forall_mem_cons.mpr ⟨kept, keptRest⟩⟩
    rw [List.map_cons, same, sameRest]

/-- A list that was decoded is the array it was decoded from, record by record. -/
theorem kept_of_ofJson (fits : v.Fits (room + 2)) (decoded : ofJson v = .ok channels) :
    Json.array (channels.map Channel.toJson) = v ∧ ∀ c ∈ channels, c.Kept room := by
  cases v with
  | array items =>
    have fits : ∀ item ∈ items, item.Fits (room + 1) := by
      cases fits with
      | array fits => exact fits
    obtain ⟨same, kept⟩ := kept_of_mapM fits decoded
    exact ⟨congrArg Json.array same, kept⟩
  | _ => cases decoded

end ChannelList

theorem jsonOf_answered {endpoint : Url} {status : Nat} {body : List UInt8} {v : Json}
    (success : isSuccess status = true) (read : Json.read body = .ok v) :
    jsonOf endpoint (.answered status (some (.ok body))) = some (.ok v) := by
  simp only [jsonOf, success, Bool.not_true, Bool.false_eq_true, if_false, read]

theorem fetchChannels_eq {client : Client} {net : Network} {status : Nat} {body : List UInt8}
    {members : Members} {a : Json}
    (replied : (net.exchange client.base.channels client.limit).1 = .answered status (some (.ok body)))
    (success : isSuccess status = true) (read : Json.read body = .ok (.object members))
    (given : lookup "channels" members = some a) (present : a ≠ .null) :
    (client.fetchChannels net).1 =
      some ((ChannelList.ofJson a).mapError fun cause => ⟨client.base.channels, .body ⟨cause, none⟩⟩) := by
  have channelsIn_eq : channelsIn (.object members) = ChannelList.ofJson a := by
    cases a with
    | null => exact absurd rfl present
    | _ => simp only [channelsIn, channelsMember, given, Option.getD_some]
  simp only [Client.fetchChannels, channelsOf, replied, jsonOf_answered success read, channelsIn_eq]
  cases ChannelList.ofJson a <;> rfl

/-- A list in a successful reply is fetched if it holds nothing but channel records, and otherwise none of
it is: then the body is at fault. Written back it is the list of the reply, and the fields of a record are
kept apart from its other members. Conversely each record is decoded from its own value. -/
theorem channels_are_kept_verbatim :
    (∀ (client : Client) (net : Network) (status : Nat) (body : List UInt8) (members : Members) (a : Json),
      (net.exchange client.base.channels client.limit).1 = .answered status (some (.ok body)) →
      isSuccess status = true →
      Json.read body = .ok (.object members) → lookup "channels" members = some a → a ≠ .null →
        ((∃ channels, (client.fetchChannels net).1 = some (.ok channels)) ↔ a.IsChannelList) ∧
        (¬ a.IsChannelList →
          ∃ fault, (client.fetchChannels net).1 = some (.error ⟨client.base.channels, .body fault⟩)) ∧
        ∀ channels, (client.fetchChannels net).1 = some (.ok channels) →
          Json.array (channels.map Channel.toJson) = a ∧ ∀ c ∈ channels, c.Separate) ∧
    ∀ c : Channel, Sorted c.extra → c.Separate → Channel.ofJson c.toJson = .ok c := by
  refine ⟨?_, fun c sorted separate => Channel.ofJson_toJson sorted separate⟩
  intro client net status body members a replied success read given present
  have fetched := fetchChannels_eq replied success read given present
  have fits : a.Fits 126 := by
    cases fits_of_read read with
    | object sorted fit => exact fit _ (mem_of_lookup given)
  rw [fetched, ← ChannelList.ofJson_isOk]
  cases decoded : ChannelList.ofJson a with
  | ok channels =>
    obtain ⟨same, kept⟩ := ChannelList.kept_of_ofJson fits decoded
    refine ⟨⟨fun _ => ⟨channels, rfl⟩, fun _ => ⟨channels, rfl⟩⟩, fun none => absurd ⟨channels, rfl⟩ none, ?_⟩
    rintro _ ⟨⟩
    exact ⟨same, fun c there => (kept c there).separate⟩
  | error cause =>
    refine ⟨⟨?_, ?_⟩, fun _ => ⟨⟨cause, none⟩, rfl⟩, ?_⟩
    · exact fun ⟨_, h⟩ => nomatch h
    · exact fun ⟨_, h⟩ => nomatch h
    · exact fun _ h => nomatch h

namespace OneChannel

/-- The service at `http://channels/`. -/
def base : BaseUrl :=
  ⟨⟨"http".toList, some ⟨[], [], .name "channels".toList, none⟩, false, .listed [[]], none, none⟩, rfl⟩

/-- The reply as it is written, its members in no order. -/
def reply : String :=
  "\x7b\"channels\":[\x7b\"userID\":\"u1\",\"topic\":\x7b\"a\":[],\"b\":2\x7d,\"name\":\"é\"\x7d]\x7d"

def body : List UInt8 := Utf8.encode reply.toList

def client : Client := ⟨base, none⟩

def net : Network := .answering [.prompt 200 body none none]

def topic : Json := .object [("a", .array []), ("b", .natural 2 (by decide))]

def channel : Channel := ⟨"u1", "é", [("topic", topic)]⟩

/-- The array in the reply, the members of its record in their order. -/
def listed : Json := .array [.object [("name", .string "é"), ("topic", topic), ("userID", .string "u1")]]

/-- The members of the record, as they are written. -/
def written : List (String × Json) := [("userID", .string "u1"), ("topic", topic), ("name", .string "é")]

theorem topic_fits (room : Nat) : topic.Fits (room + 2) :=
  .object (by decide) (List.forall_mem_cons.mpr ⟨.array fun _ none => absurd none List.not_mem_nil,
    List.forall_mem_singleton.mpr (.integer _)⟩)

theorem topic_lacks_doubles (x : Binary64) : ¬ HasDouble x topic := by
  intro has
  cases has with
  | member there has =>
    rcases List.mem_cons.mp there with rfl | there
    · cases has with
      | item there _ => cases there
    · cases List.mem_singleton.mp there
      cases has

theorem reply_rereads (room : Nat) : Rereads .dense (value (room + 5))
    (.object [("channels", .array [.object written])]) (.object [("channels", listed)]) := by
  have members : ofPairs written = written.reverse :=
    Sorted.ofPairs_eq (by decide) (show written.Pairwise _ by decide) fun _ => List.mem_reverse.symm
  have record : Rereads .dense (value (room + 3)) (.object written) (.object written.reverse) := by
    rw [← members]
    exact .pairs (List.forall_mem_cons.mpr ⟨.anywhere (fun _ => .string _) _, List.forall_mem_cons.mpr
      ⟨value_rereads (topic_fits room) fun x has => absurd has (topic_lacks_doubles x),
        List.forall_mem_singleton.mpr (.anywhere (fun _ => .string _) _)⟩⟩)
  have records : Rereads .dense (value (room + 4)) (.array ([()].map fun _ => .object written))
      (.array ([()].map fun _ => .object written.reverse)) := .array fun _ _ => record
  have list : Rereads .dense (value (room + 4)) (.array [.object written]) listed := records
  exact .object (.cons (.of_value (fun v => [("channels", v)]) list rfl) (.nil _))

theorem read_body : Json.read body = .ok (.object [("channels", listed)]) := by
  have text : body = Utf8.encode (Layout.dense.chars 0 (.object [("channels", .array [.object written])])) ++ [] := by
    rw [Layout.chars_dense, List.append_nil]
    exact congrArg Utf8.encode (by decide +kernel)
  rw [text]
  exact (reply_rereads 122).whole 0 .nil

end OneChannel

open OneChannel in
/-- A record with a member of its own is fetched and is the one in the reply. -/
theorem verbatim_with_topic :
    (client.fetchChannels net).1 = some (.ok [channel]) ∧ Json.array ([channel].map Channel.toJson) = listed ∧
      listed.IsChannelList ∧ Channel.ofJson channel.toJson = .ok channel := by
  have replied : (net.exchange client.base.channels client.limit).1 = .answered 200 (some (.ok body)) := rfl
  have present : listed ≠ .null := fun h => nomatch h
  have fetched : (client.fetchChannels net).1 = some (.ok [channel]) :=
    fetchChannels_eq replied rfl read_body rfl present
  obtain ⟨complete, -, verbatim⟩ :=
    channels_are_kept_verbatim.1 client net 200 body [("channels", listed)] listed replied rfl read_body rfl present
  have separate : channel.Separate := ⟨by decide, by decide⟩
  exact ⟨fetched, (verbatim _ fetched).1, complete.mp ⟨_, fetched⟩,
    channels_are_kept_verbatim.2 channel (by decide) separate⟩

end ChannelFeed
