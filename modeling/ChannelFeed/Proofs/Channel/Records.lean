import ChannelFeed.Proofs.Json.Ordered
import ChannelFeed.Channel.Decoding

/-!
# Records and their values

A channel record and its value hold the same: a value is decoded exactly when it has the two fields, and
decoding and writing undo each other as long as the fields and the other members share no key.
-/

namespace ChannelFeed

open Json

/-- A value is that of a channel: an object in which the two fields are texts. -/
def Json.IsChannel (v : Json) : Prop :=
  ∃ members userId name, v = .object members ∧ lookup "userID" members = some (.string userId) ∧
    lookup "name" members = some (.string name)

/-- A value is that of a list of channels: an array of nothing else. -/
def Json.IsChannelList (v : Json) : Prop := ∃ items, v = .array items ∧ ∀ item ∈ items, item.IsChannel

namespace Channel

/-- None of the other members has the key of a field. -/
structure Separate (c : Channel) : Prop where
  userId : Lacks "userID" c.extra
  name : Lacks "name" c.extra

/-- The other members are such as are read: in order, nested at most `room` deep, and none of them with the
key of a field. -/
structure Kept (room : Nat) (c : Channel) : Prop where
  separate : c.Separate
  sorted : Sorted c.extra
  fit : ∀ m ∈ c.extra, m.2.Fits room

/-- The fields and the other members. -/
def pairs (c : Channel) : List (String × Json) := ("userID", .string c.userId) :: ("name", .string c.name) :: c.extra

/-- The members of an object that are no fields. -/
def others (members : Members) : Members := members.filter fun (k, _) => k ≠ "userID" ∧ k ≠ "name"

theorem mem_others {members : Members} {m : String × Json} :
    m ∈ others members ↔ m ∈ members ∧ m.1 ≠ "userID" ∧ m.1 ≠ "name" := by
  unfold others
  rw [List.mem_filter, decide_eq_true_iff]

variable {c : Channel} {v : Json} {members : Members}

theorem Separate.distinctKeys (separate : c.Separate) (sorted : Sorted c.extra) : DistinctKeys c.pairs := by
  refine List.pairwise_cons.mpr ⟨?_, List.pairwise_cons.mpr ⟨?_, sorted.distinctKeys⟩⟩
  · intro m there
    rcases List.mem_cons.mp there with rfl | there
    · exact show "userID" ≠ "name" by decide
    · exact (separate.userId m there).symm
  · exact fun m there => (separate.name m there).symm

theorem mapM_asString_eq_ok {found : Option Json} {s : Option String} :
    found.mapM Json.asString = Except.ok s ↔ found = s.map Json.string := by
  cases found with
  | none => cases s <;> simp [pure, Except.pure]
  | some w =>
    rw [Option.mapM_some]
    cases w <;> cases s <;> simp [Json.asString, Functor.map, Except.map]

theorem ofJson_eq_ok : Channel.ofJson v = .ok c ↔
    ∃ members, v = .object members ∧ lookup "userID" members = some (.string c.userId) ∧
      lookup "name" members = some (.string c.name) ∧ c.extra = others members := by
  constructor
  · intro decoded
    cases v with
    | object members =>
      obtain ⟨name, readName, decoded⟩ := bind_eq_ok.mp decoded
      obtain ⟨userId, readId, decoded⟩ := bind_eq_ok.mp decoded
      rw [mapM_asString_eq_ok] at readName readId
      cases userId with
      | none => cases decoded
      | some i =>
        cases name with
        | none => cases decoded
        | some n =>
          cases decoded
          exact ⟨members, rfl, readId, readName, rfl⟩
    | _ => cases decoded
  · rintro ⟨members, rfl, foundId, foundName, rest⟩
    refine bind_eq_ok.mpr ⟨some c.name, mapM_asString_eq_ok.mpr foundName, ?_⟩
    refine bind_eq_ok.mpr ⟨some c.userId, mapM_asString_eq_ok.mpr foundId, ?_⟩
    change Except.ok (⟨c.userId, c.name, others members⟩ : Channel) = _
    rw [← rest]

theorem ofJson_isOk : (∃ c, Channel.ofJson v = .ok c) ↔ v.IsChannel := by
  constructor
  · rintro ⟨c, decoded⟩
    obtain ⟨members, is, foundId, foundName, -⟩ := ofJson_eq_ok.mp decoded
    exact ⟨members, c.userId, c.name, is, foundId, foundName⟩
  · rintro ⟨members, userId, name, is, foundId, foundName⟩
    exact ⟨⟨userId, name, others members⟩, ofJson_eq_ok.mpr ⟨members, is, foundId, foundName, rfl⟩⟩

/-- A record that was decoded holds the members of its value, and its fields are kept apart. -/
theorem kept_of_ofJson {room : Nat} (fits : v.Fits (room + 1)) (decoded : Channel.ofJson v = .ok c) :
    c.toJson = v ∧ c.Kept room := by
  obtain ⟨members, rfl, foundId, foundName, rest⟩ := ofJson_eq_ok.mp decoded
  obtain ⟨sorted, fit⟩ : Sorted members ∧ ∀ m ∈ members, m.2.Fits room := by
    cases fits with
    | object sorted fit => exact ⟨sorted, fit⟩
  have kept : c.Kept room := by
    refine ⟨⟨?_, ?_⟩, rest ▸ sorted.filter _, ?_⟩
    · exact fun m there => (mem_others.mp (rest ▸ there)).2.1
    · exact fun m there => (mem_others.mp (rest ▸ there)).2.2
    · exact fun m there => fit m (mem_others.mp (rest ▸ there)).1
  refine ⟨congrArg Json.object (sorted.ofPairs_eq (kept.separate.distinctKeys kept.sorted) fun m => ?_), kept⟩
  constructor
  · intro there
    rcases List.mem_cons.mp there with rfl | there
    · exact mem_of_lookup foundId
    · rcases List.mem_cons.mp there with rfl | there
      · exact mem_of_lookup foundName
      · exact (mem_others.mp (rest ▸ there)).1
  · intro there
    obtain ⟨k, w⟩ := m
    by_cases isId : k = "userID"
    · subst isId
      rw [sorted.distinctKeys.eq there (mem_of_lookup foundId)]
      exact List.mem_cons_self
    · refine List.mem_cons_of_mem _ ?_
      by_cases isName : k = "name"
      · subst isName
        rw [sorted.distinctKeys.eq there (mem_of_lookup foundName)]
        exact List.mem_cons_self
      · exact List.mem_cons_of_mem _ (rest ▸ mem_others.mpr ⟨there, isId, isName⟩)

theorem ofJson_toJson (sorted : Sorted c.extra) (separate : c.Separate) : Channel.ofJson c.toJson = .ok c := by
  have distinct := separate.distinctKeys sorted
  have ordered : Sorted (ofPairs c.pairs) := sorted_ofPairs c.pairs
  have holds (m : String × Json) : m ∈ ofPairs c.pairs ↔ m ∈ c.pairs := mem_ofPairs distinct
  refine ofJson_eq_ok.mpr ⟨ofPairs c.pairs, rfl, ?_, ?_, ?_⟩
  · exact lookup_of_mem ordered.distinctKeys ((holds _).mpr List.mem_cons_self)
  · exact lookup_of_mem ordered.distinctKeys ((holds _).mpr (List.mem_cons_of_mem _ List.mem_cons_self))
  · refine sorted.eq_of_mem_iff (ordered.filter _) fun m => ?_
    refine Iff.trans ?_ mem_others.symm
    rw [holds]
    constructor
    · intro there
      exact ⟨List.mem_cons_of_mem _ (List.mem_cons_of_mem _ there), separate.userId m there, separate.name m there⟩
    · rintro ⟨there, notId, notName⟩
      rcases List.mem_cons.mp there with rfl | there
      · exact absurd rfl notId
      · rcases List.mem_cons.mp there with rfl | there
        · exact absurd rfl notName
        · exact there

end Channel

end ChannelFeed
