import ChannelFeed.Proofs.Channel.Written

/-!
# The two ways to decode an envelope

An envelope is decoded from its text, or from the value that was read from the text. Main statement: `decoders_agree`.
Both give the same list; the text decoder rejects no more than `null` in place of the list and repeated fields.
-/

namespace ChannelFeed

open Http Json Json.Reader

section

variable {members : Members} {pairs : List (String × Json)} {channels : List Channel} {body : List UInt8}

/-- Unless `null` stands in place of the list, a fetch decodes an envelope as any reader of the value would. -/
theorem channelsIn_object (present : lookup "channels" members ≠ some .null) :
    channelsIn (.object members) = ChannelList.ofMembers members := by
  cases found : lookup "channels" members with
  | none => simp only [channelsIn, channelsMember, ChannelList.ofMembers, found, Option.getD_none]
  | some v =>
    cases v with
    | null => exact absurd found present
    | _ => simp only [channelsIn, channelsMember, ChannelList.ofMembers, found, Option.getD_some]

namespace ChannelList

theorem channelsIn_without (empty : valuesOf "channels" pairs = []) :
    channelsIn (.object (normalTable pairs)) = .ok [] ∧ lookup "channels" (normalTable pairs) ≠ some .null := by
  have absent := lookup_normalTable_eq_none.mpr empty
  have present : lookup "channels" (normalTable pairs) ≠ some .null := by
    rw [absent]
    exact fun h => nomatch h
  refine ⟨?_, present⟩
  rw [channelsIn_object present, ofMembers, absent]

theorem channelsIn_only {w : Json} (only : valuesOf "channels" pairs = [w])
    (made : ChannelList.ofJson w.normal = .ok channels) :
    channelsIn (.object (normalTable pairs)) = .ok channels ∧ lookup "channels" (normalTable pairs) ≠ some .null := by
  have found := lookup_of_only only
  have present : lookup "channels" (normalTable pairs) ≠ some .null := by
    rw [found]
    intro isNull
    rw [Option.some.inj isNull] at made
    cases made
  refine ⟨?_, present⟩
  rw [channelsIn_object present, ofMembers, found]
  exact made

/-- What the text decoder makes of an envelope as it is written: what a fetch makes of the value, or nothing. -/
theorem recordOf_iff : recordOf ChannelList.record take pairs = some channels ↔
    channelsIn (.object (normalTable pairs)) = .ok channels ∧ lookup "channels" (normalTable pairs) ≠ some .null ∧
      ¬ Repeats "channels" pairs ∧ ∀ items, ("channels", .array items) ∈ pairs → ¬ RepeatsWithin items := by
  rw [recordOf_eq_some]
  constructor
  · rintro (⟨empty, rfl⟩ | ⟨w, only, made⟩)
    · obtain ⟨decoded, present⟩ := channelsIn_without empty
      refine ⟨decoded, present, not_repeats_of_none empty, fun items there => ?_⟩
      rw [← mem_valuesOf, empty] at there
      cases there
    · obtain ⟨made, once⟩ := ofWritten?_iff.mp made
      obtain ⟨decoded, present⟩ := channelsIn_only only made
      refine ⟨decoded, present, not_repeats_of_only only, fun items there => ?_⟩
      rw [← mem_valuesOf, only, List.mem_singleton] at there
      exact once items there.symm
  · rintro ⟨made, present, single, once⟩
    rw [channelsIn_object present, ofMembers] at made
    cases found : lookup "channels" (normalTable pairs) with
    | none =>
      rw [found] at made
      cases made
      exact .inl ⟨lookup_normalTable_eq_none.mp found, rfl⟩
    | some v =>
      rw [found] at made
      obtain ⟨w, only, rfl⟩ := only_value single found
      refine .inr ⟨w, only, ofWritten?_iff.mpr ⟨made, ?_⟩⟩
      rintro items rfl
      exact once items (mem_valuesOf.mp (only ▸ List.mem_singleton_self _))

theorem read_eq_ok (written : readAsWritten body = .ok (.object pairs)) :
    ChannelList.read body = .ok channels ↔ recordOf ChannelList.record take pairs = some channels :=
  whole?_yields (fun _ read => record_object member_takes read) written channels

end ChannelList

theorem fetchChannels_object {client : Client} {net : Network} {status : Nat}
    (replied : (net.exchange client.base.channels client.limit).1 = .answered status (some (.ok body)))
    (success : isSuccess status = true) (read : Json.read body = .ok (.object members)) :
    (client.fetchChannels net).1 = some (.ok channels) ↔ channelsIn (.object members) = .ok channels := by
  simp only [Client.fetchChannels, channelsOf, replied, jsonOf_answered success read]
  cases channelsIn (.object members) <;> simp

theorem written_of_read {v : Json} (read : Json.read body = .ok v) :
    ∃ w, readAsWritten body = .ok w ∧ w.normal = v := by
  rw [read_eq] at read
  cases written : readAsWritten body with
  | error fault =>
    rw [written] at read
    cases read
  | ok w =>
    rw [written] at read
    exact ⟨w, rfl, Except.ok.inj read⟩

end

/-- Let the body of a successful reply be the text of an object. If both the text decoder and a fetch accept it, they
give the same list. If a fetch accepts it, the text decoder rejects it just when `null` stands in place of the list, when
the envelope has more than one list, or when a record of the list repeats a field. An object that was read before is
decoded alike by both unless `null` stands in place of the list. -/
theorem decoders_agree :
    (∀ (client : Client) (net : Network) (status : Nat) (body : List UInt8) (members : Members),
      (net.exchange client.base.channels client.limit).1 = .answered status (some (.ok body)) →
      isSuccess status = true →
      Json.read body = .ok (.object members) →
        ∃ pairs, readAsWritten body = .ok (.object pairs) ∧
          (∀ typed fetched, ChannelList.read body = .ok typed → (client.fetchChannels net).1 = some (.ok fetched) →
            typed = fetched) ∧
          ∀ fetched, (client.fetchChannels net).1 = some (.ok fetched) →
            ((∃ fault, ChannelList.read body = .error fault) ↔
              lookup "channels" members = some .null ∨ Repeats "channels" pairs ∨
                ∃ items record, ("channels", .array items) ∈ pairs ∧ .object record ∈ items ∧
                  (Repeats "userID" record ∨ Repeats "name" record))) ∧
    ∀ members : Members, lookup "channels" members ≠ some .null →
      ChannelList.ofMembers members = channelsIn (.object members) := by
  refine ⟨?_, fun members present => (channelsIn_object present).symm⟩
  intro client net status body members replied success read
  obtain ⟨w, written, is⟩ := written_of_read read
  obtain ⟨pairs, rfl, rfl⟩ := normal_eq_object is
  have typed (channels : List Channel) : ChannelList.read body = .ok channels ↔ _ :=
    (ChannelList.read_eq_ok written).trans ChannelList.recordOf_iff
  have fetched (channels : List Channel) : (client.fetchChannels net).1 = some (.ok channels) ↔ _ :=
    fetchChannels_object replied success read
  refine ⟨pairs, written, ?_, ?_⟩
  · intro one other accepted given
    obtain ⟨same, -⟩ := (typed one).mp accepted
    exact Except.ok.inj (same.symm.trans ((fetched other).mp given))
  · intro channels given
    constructor
    · rintro ⟨fault, rejected⟩
      refine Classical.byContradiction fun different => ?_
      obtain ⟨present, different⟩ := not_or.mp different
      obtain ⟨single, once⟩ := not_or.mp different
      have accepted := (typed channels).mpr ⟨(fetched channels).mp given, present, single,
        fun items there ⟨record, inside, repeated⟩ => once ⟨items, record, there, inside, repeated⟩⟩
      cases rejected.symm.trans accepted
    · intro different
      cases decoded : ChannelList.read body with
      | error fault => exact ⟨fault, rfl⟩
      | ok other =>
        obtain ⟨-, present, single, once⟩ := (typed other).mp decoded
        rcases different with isNull | repeated | ⟨items, record, there, inside, repeated⟩
        · exact absurd isNull present
        · exact absurd repeated single
        · exact absurd ⟨record, inside, repeated⟩ (once items there)

namespace TwoIds

/-- A reply whose record gives its id twice. -/
def body : List UInt8 :=
  Utf8.encode "\x7b\"channels\":[\x7b\"userID\":\"u1\",\"name\":\"a\",\"userID\":\"u2\"\x7d]\x7d".toList

def net : Network := .answering [.prompt 200 body none none]

/-- The members of the value behind the reply. -/
def members : Members := [("channels", .array [.object [("name", .string "a"), ("userID", .string "u2")]])]

theorem read_body : Json.read body = .ok (.object members) := rfl

theorem rejected : ∃ fault, ChannelList.read body = .error fault := by
  have refused : (ChannelList.read body).isOk = false := by decide +kernel
  cases decoded : ChannelList.read body with
  | error fault => exact ⟨fault, rfl⟩
  | ok channels =>
    rw [decoded] at refused
    cases refused

end TwoIds

open TwoIds in
/-- A record that gives its id twice is fetched with the last one. The text decoder rejects it, so something is repeated
in what is written. -/
theorem second_id_tells_decoders_apart :
    (OneChannel.client.fetchChannels net).1 = some (.ok [⟨"u2", "a", []⟩]) ∧
      (∃ pairs, readAsWritten body = .ok (.object pairs) ∧ (Repeats "channels" pairs ∨
        ∃ items record, ("channels", .array items) ∈ pairs ∧ .object record ∈ items ∧
          (Repeats "userID" record ∨ Repeats "name" record))) ∧
      ChannelList.ofMembers members = channelsIn (.object members) := by
  have replied : (net.exchange OneChannel.base.channels none).1 = .answered 200 (some (.ok body)) := rfl
  have fetched : (OneChannel.client.fetchChannels net).1 = some (.ok [⟨"u2", "a", []⟩]) :=
    (fetchChannels_object replied rfl read_body).mpr rfl
  have present : lookup "channels" members ≠ some .null := fun h => nomatch h
  obtain ⟨pairs, written, -, rejects⟩ := decoders_agree.1 OneChannel.client net 200 body members replied rfl read_body
  have repeated := ((rejects _ fetched).mp rejected).resolve_left present
  exact ⟨fetched, ⟨pairs, written, repeated⟩, decoders_agree.2 members present⟩

end ChannelFeed
