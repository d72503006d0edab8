import ChannelFeed.CommandLine.Listing
import ChannelFeed.Proofs.Channel.Verbatim
import ChannelFeed.Proofs.Json.Rereading

/-!
# A printed list is read back

A list that was fetched can be printed and read again, from the text itself or when a service gives the
text as its reply. Main statement: `printed_channels_are_read_back`.
-/

namespace ChannelFeed

open Http Json Json.Reader

variable {layout : Layout} {c : Channel} {channels : List Channel} {room : Nat}

/-- The doubles among the other members are read back. -/
def Channel.Readable (c : Channel) : Prop := ∀ m ∈ c.extra, ∀ x, HasDouble x m.2 → x.Readable

namespace Channel

/-- The other members are read one after the other, whatever is known of the fields. -/
theorem extra_reread (kept : c.Kept room) (readable : c.Readable) (userId name : Option String) :
    MembersReread layout (Channel.member room) c.extra ⟨userId, name, []⟩ ⟨userId, name, c.extra⟩ := by
  have values : ∀ m ∈ c.extra, Rereads layout (value room) m.2 m.2 :=
    fun m there => value_rereads (kept.fit m there) (readable m there)
  -- No member has the key of a field, so that each of them takes the last branch of the step.
  let put (p : Channel.Partial) (m : String × Json) : Channel.Partial := { p with extra := insert m.1 m.2 p.extra }
  have step : ∀ m ∈ c.extra, ∀ p, Channel.member room m.1 p = do colon; return put p (m.1, ← value room) := by
    intro m there p
    rw [Channel.member, if_neg (kept.separate.userId m there), if_neg (kept.separate.name m there)]
  have all := membersReread_foldl values step ⟨userId, name, []⟩
  have same : c.extra.foldl put ⟨userId, name, []⟩ = ⟨userId, name, ofPairs c.extra⟩ :=
    List.foldl_hom (fun extra => (⟨userId, name, extra⟩ : Channel.Partial)) fun _ _ => rfl
  rwa [same, kept.sorted.ofPairs_eq kept.sorted.distinctKeys fun _ => Iff.rfl] at all

theorem reader_rereads (kept : c.Kept room) (readable : c.Readable) :
    Rereads layout (Channel.reader (room + 1)) c.document c := by
  have userId : MemberRereads layout (Channel.member room) ("userID", .string c.userId) ⟨none, none, []⟩
      ⟨some c.userId, none, []⟩ := by
    intro level after ends
    rw [Channel.member, if_pos rfl]
    exact (Reads.field (.text c.userId) ends).bind Reads.pure
  have name : MemberRereads layout (Channel.member room) ("name", .string c.name) ⟨some c.userId, none, []⟩
      ⟨some c.userId, some c.name, []⟩ := by
    intro level after ends
    rw [Channel.member, if_neg (show "name" ≠ "userID" by decide), if_pos rfl]
    exact (Reads.field (.text c.name) ends).bind Reads.pure
  exact .record (.cons userId (.cons name (extra_reread kept readable _ _))) rfl

theorem value_rereads (kept : c.Kept room) (readable : c.Readable) :
    Rereads layout (value (room + 1)) c.document c.toJson := by
  refine .pairs (List.forall_mem_cons.mpr ⟨.anywhere (fun _ => .string _) _, List.forall_mem_cons.mpr
    ⟨.anywhere (fun _ => .string _) _, fun m there => ?_⟩⟩)
  exact Reader.value_rereads (kept.fit m there) (readable m there)

end Channel

namespace ChannelList

theorem record_rereads (kept : ∀ c ∈ channels, c.Kept room) (readable : ∀ c ∈ channels, c.Readable) :
    Rereads layout (Reader.record record (room + 3)) (envelope channels) channels := by
  have list : Rereads layout (channelsReader (room + 2)) (.array (channels.map Channel.document)) channels := by
    have all : ∀ c ∈ channels, Rereads layout (Channel.reader (room + 1)) c.document (id c) :=
      fun c there => Channel.reader_rereads (kept c there) (readable c there)
    have whole := Rereads.list all
    rwa [List.map_id] at whole
  have field : MemberRereads layout (member (room + 2)) ("channels", .array (channels.map Channel.document)) none
      (some channels) := by
    intro level after ends
    rw [member, if_pos rfl]
    exact Reads.field list ends
  exact .record (.cons field (.nil _)) rfl

/-- Read as a value it is an object with the values of the records. -/
theorem value_rereads (kept : ∀ c ∈ channels, c.Kept room) (readable : ∀ c ∈ channels, c.Readable) :
    Rereads layout (value (room + 3)) (envelope channels)
      (.object [("channels", .array (channels.map Channel.toJson))]) := by
  have list : Rereads layout (value (room + 2)) (.array (channels.map Channel.document))
      (.array (channels.map Channel.toJson)) :=
    .array fun c there => Channel.value_rereads (kept c there) (readable c there)
  exact .object (.cons (.of_value (fun v => [("channels", v)]) list rfl) (.nil _))

theorem ofJson_map_toJson (kept : ∀ c ∈ channels, c.Kept room) :
    ofJson (.array (channels.map Channel.toJson)) = .ok channels := by
  change (channels.map Channel.toJson).mapM Channel.ofJson = _
  induction channels with
  | nil => rfl
  | cons c channels ih =>
    obtain ⟨first, kept⟩ := List.forall_mem_cons.mp kept
    exact mapM_cons_eq_ok.mpr ⟨c, channels, Channel.ofJson_toJson first.sorted first.separate, ih kept, rfl⟩

end ChannelList

theorem exists_read_of_jsonOf {endpoint : Url} {outcome : Outcome} {v : Json}
    (got : jsonOf endpoint outcome = some (.ok v)) : ∃ body, Json.read body = .ok v := by
  unfold jsonOf at got
  cases outcome with
  | noHead fault => cases got
  | silence => cases got
  | answered status body =>
    dsimp only at got
    split at got
    · cases got
    · split at got
      · cases got
      · cases got
      · next bytes =>
        split at got
        · cases got
        · next read =>
          cases got
          exact ⟨bytes, read⟩

theorem exists_read_of_fetched {client : Client} {net : Network}
    (fetched : (client.fetchChannels net).1 = some (.ok channels)) :
    ∃ body v, Json.read body = .ok v ∧ channelsIn v = .ok channels := by
  change channelsOf client.base.channels (net.exchange client.base.channels client.limit).1 = _ at fetched
  unfold channelsOf at fetched
  split at fetched
  · cases fetched
  · cases fetched
  · next v got =>
    obtain ⟨body, read⟩ := exists_read_of_jsonOf got
    split at fetched
    · next found =>
      cases fetched
      exact ⟨body, v, read, found⟩
    · cases fetched

/-- A list that was fetched has records such as are read with room for three levels around their members. -/
theorem kept_of_fetched {client : Client} {net : Network}
    (fetched : (client.fetchChannels net).1 = some (.ok channels)) : ∀ c ∈ channels, c.Kept 124 := by
  obtain ⟨body, v, read, decoded⟩ := exists_read_of_fetched fetched
  unfold channelsIn at decoded
  split at decoded
  · cases decoded
    exact fun c none => absurd none List.not_mem_nil
  · next some =>
    refine (ChannelList.kept_of_ofJson ?_ decoded).2
    cases fits_of_read read with
    | @object _ members sorted fit =>
      cases found : lookup "channels" members with
      | none => exact absurd (by rw [channelsMember, found]; rfl) some
      | some a =>
        rw [channelsMember, found]
        exact fit _ (mem_of_lookup found)
    | _ => exact absurd rfl some

/-- The printed forms of a list: on one line, over lines, and as the program prints it with a line feed behind it. -/
def IsPrinted (channels : List Channel) (text : String) : Prop :=
  text = (envelope channels).compact ∨ text = (envelope channels).pretty ∨ text = CommandLine.listing true channels

theorem exists_layout {text : String} (printed : IsPrinted channels text) :
    ∃ (layout : Layout) (gap : List UInt8), Blank gap ∧
      text.toUTF8.toList = Utf8.encode (layout.chars 0 (envelope channels)) ++ gap := by
  rw [Utf8.toUTF8_toList]
  rcases printed with rfl | rfl | rfl
  · refine ⟨.dense, [], .nil, ?_⟩
    rw [Layout.chars_dense, compact, String.toList_ofList, List.append_nil]
  · refine ⟨.lines, [], .nil, ?_⟩
    rw [Layout.chars_lines, pretty, String.toList_ofList, List.append_nil]
  · refine ⟨.lines, [10], List.forall_mem_singleton.mpr rfl, ?_⟩
    rw [Layout.chars_lines, CommandLine.listing, if_pos rfl, pretty, String.toList_append, String.toList_ofList,
      Utf8.encode_append]
    rfl

section Printed

variable {text : String}

theorem read_of_printed (kept : ∀ c ∈ channels, c.Kept 124) (readable : ∀ c ∈ channels, c.Readable)
    (printed : IsPrinted channels text) : ChannelList.read text.toUTF8.toList = .ok channels := by
  obtain ⟨layout, gap, blank, bytes⟩ := exists_layout printed
  rw [bytes]
  exact (ChannelList.record_rereads kept readable).whole 0 blank

theorem fetched_of_printed {client : Client} {net : Network} {status : Nat} (kept : ∀ c ∈ channels, c.Kept 124)
    (readable : ∀ c ∈ channels, c.Readable) (printed : IsPrinted channels text)
    (replied : (net.exchange client.base.channels client.limit).1 = .answered status (some (.ok text.toUTF8.toList)))
    (success : isSuccess status = true) : (client.fetchChannels net).1 = some (.ok channels) := by
  obtain ⟨layout, gap, blank, bytes⟩ := exists_layout printed
  rw [bytes] at replied
  have rereads : Rereads layout (value maxDepth) _ _ := ChannelList.value_rereads kept readable
  have fetched := fetchChannels_eq replied success (rereads.whole 0 blank) rfl (fun h => nomatch h)
  rw [fetched, ChannelList.ofJson_map_toJson kept]
  rfl

end Printed

/-- A list that was fetched, and whose doubles are read back from their texts, is read back from each of its
printed forms: from the text of its envelope, and when a service gives the text as the body of a success. -/
theorem printed_channels_are_read_back (client : Client) (net : Network) (channels : List Channel) (text : String)
    (fetched : (client.fetchChannels net).1 = some (.ok channels)) (readable : ∀ c ∈ channels, c.Readable)
    (printed : IsPrinted channels text) :
    ChannelList.read text.toUTF8.toList = .ok channels ∧
      ∀ (client : Client) (net : Network) (status : Nat),
        (net.exchange client.base.channels client.limit).1 = .answered status (some (.ok text.toUTF8.toList)) →
        isSuccess status = true → (client.fetchChannels net).1 = some (.ok channels) := by
  have kept := kept_of_fetched fetched
  refine ⟨read_of_printed kept readable printed, ?_⟩
  exact fun _ _ _ replied success => fetched_of_printed kept readable printed replied success

namespace RatedChannel

def rate : Binary64 := ⟨false, 4609434218613702656, by decide⟩

theorem readable_rate : rate.Readable := by
  have rounded : Binary64.ofDecimal? false 15 (-1) = some rate := by
    unfold Binary64.ofDecimal? Binary64.scaleDown?
    decide +kernel
  have scaled : Reads (Reader.scaled false 15 (-1)) [] (.double rate) [] := by
    rw [scaled_eq]
    dsimp only
    rw [rounded]
    exact Reads.pure
  have fraction : Reads (Reader.digitsUpTo maxSignificand 1 1) (Utf8.encode ['5'] ++ [])
      (Nat.ofDigitChars 10 ['5'] 1, 1) [] :=
    Reads.digitsUpTo (List.forall_mem_singleton.mpr rfl) 1 (by decide) (Nat.le_refl 1) .nil
  have integer : Reads (Reader.digitsUpTo maxSignificand 2 1) [46, 53] (1, 0) [46, 53] :=
    fun p => ⟨p, digitsUpTo_stop (by decide)⟩
  have read : Reads (Reader.numeral false) [49, 46, 53] (.double rate) [] := by
    refine Reads.next.bind (Reads.left.bind (integer.bind (Reads.look.bind (Reads.look.bind ?_))))
    exact Reads.advance.bind (Reads.left.bind (fraction.bind (Reads.look.bind (Reads.look.bind scaled))))
  have value : Reads (value maxDepth) (Utf8.encode ['1', '.', '5'] ++ []) (Numeral.double rate).json [] :=
    read.unsigned rfl
  rw [Binary64.Readable, show rate.text = ['1', '.', '5'] by decide +kernel]
  exact value.whole .nil

/-- A record with a quote and a line feed in its name and a double among its other members. -/
def channel : Channel :=
  ⟨"u1", "é\"\n", [("rates", .array [.double rate, .integer ⟨-1, by decide, by decide⟩, .object []])]⟩

def text : String :=
  "\x7b\"channels\":[\x7b\"userID\":\"u1\",\"name\":\"é\\\"\\n\",\"rates\":[1.5,-1,\x7b\x7d]\x7d]\x7d"

/-- What the service says to every request. -/
def answering (text : String) : Network := .answering [.prompt 200 text.toUTF8.toList none none]

theorem kept : channel.Kept 124 := by
  refine ⟨⟨by decide, by decide⟩, by decide, List.forall_mem_singleton.mpr (.array ?_)⟩
  exact List.forall_mem_cons.mpr ⟨.double _, List.forall_mem_cons.mpr ⟨.integer _, List.forall_mem_singleton.mpr
    (.object .nil fun _ none => absurd none List.not_mem_nil)⟩⟩

theorem readable : channel.Readable := by
  refine List.forall_mem_singleton.mpr fun x has => ?_
  cases has with
  | @item _ v there has =>
    rcases List.mem_cons.mp there with rfl | there
    · cases has
      exact readable_rate
    rcases List.mem_cons.mp there with rfl | there
    · cases has
    · cases List.mem_singleton.mp there
      cases has with
      | member there _ => cases there

end RatedChannel

open OneChannel RatedChannel in
/-- A list with a double is fetched from its compact form and read back from what is printed. -/
theorem reread_with_rates :
    (client.fetchChannels (answering text)).1 = some (.ok [RatedChannel.channel]) ∧
      ChannelList.read (CommandLine.listing true [RatedChannel.channel]).toUTF8.toList = .ok [RatedChannel.channel] ∧
        (client.fetchChannels (answering (CommandLine.listing true [RatedChannel.channel]))).1 =
          some (.ok [RatedChannel.channel]) := by
  have readable : ∀ c ∈ [RatedChannel.channel], c.Readable := List.forall_mem_singleton.mpr RatedChannel.readable
  have compact : text = (envelope [RatedChannel.channel]).compact := by decide +kernel
  have fetched : (client.fetchChannels (answering text)).1 = some (.ok [RatedChannel.channel]) :=
    fetched_of_printed (List.forall_mem_singleton.mpr kept) readable (.inl compact) rfl rfl
  obtain ⟨read, served⟩ :=
    printed_channels_are_read_back client (answering text) _ _ fetched readable (.inr (.inr rfl))
  exact ⟨fetched, read, served client (answering _) 200 rfl rfl⟩

end ChannelFeed
