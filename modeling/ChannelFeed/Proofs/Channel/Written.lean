import ChannelFeed.Proofs.Channel.Verbatim
import ChannelFeed.Proofs.Json.TypedReading

/-!
# Channels from written values

What the text decoders make of a value as it is written, and how that compares with decoding the value behind it. The
text decoders take a field once, so that they reject a key that stands again; otherwise both make the same.
-/

namespace ChannelFeed

open Json Json.Reader

theorem foldlM_cons_eq_some {σ : Type} {step : σ → String × Json → Option σ} {m : String × Json}
    {pairs : List (String × Json)} {s r : σ} :
    (m :: pairs).foldlM step s = some r ↔ ∃ next, step s m = some next ∧ pairs.foldlM step next = some r := by
  rw [List.foldlM_cons]
  exact Option.bind_eq_some_iff

namespace Channel

/-- What is known of a record once one more member was taken, as it is written. -/
def Partial.take (p : Channel.Partial) (m : String × Json) : Option Channel.Partial :=
  if m.1 = "userID" then (once p.userId m.2.text?).map ({ p with userId := · })
  else if m.1 = "name" then (once p.name m.2.text?).map ({ p with name := · })
  else some { p with extra := insert m.1 m.2.normal p.extra }

/-- A channel from a value as it is written. -/
def ofWritten? (w : Json) : Option Channel := w.pairs?.bind (recordOf Channel.record Partial.take)

theorem member_takes (room : Nat) : TakesMember (Channel.member room) room Partial.take := by
  intro k p c d w c' parted read
  unfold Channel.member Partial.take
  split
  · exact (field_yields string_takes parted read).map _
  · split
    · exact (field_yields string_takes parted read).map _
    · exact .after parted ((value_takes d w c' read).map _)

theorem reader_takes (room : Nat) : Takes (Channel.reader room) room ofWritten? := record_takes rfl member_takes

variable {c : Channel} {w : Json} {pairs : List (String × Json)}

theorem others_field {k : String} (field : k = "userID" ∨ k = "name") : others ((k, w) :: pairs) = others pairs := by
  refine List.filter_cons_of_neg ?_
  intro other
  obtain ⟨notId, notName⟩ := of_decide_eq_true other
  exact field.elim notId notName

theorem others_other {k : String} (notId : k ≠ "userID") (notName : k ≠ "name") :
    others ((k, w) :: pairs) = (k, w) :: others pairs :=
  List.filter_cons_of_pos (decide_eq_true ⟨notId, notName⟩)

/-- What is known of a record behind its members: each field by the values under its key, and the other members. -/
theorem foldlM_take {p q : Channel.Partial} : pairs.foldlM Partial.take p = some q ↔
    Settles text? p.userId (valuesOf "userID" pairs) q.userId ∧ Settles text? p.name (valuesOf "name" pairs) q.name ∧
      q.extra = (normalMembers (others pairs)).foldl (fun ms (k, v) => insert k v ms) p.extra := by
  induction pairs generalizing p with
  | nil =>
    obtain ⟨userId, name, extra⟩ := p
    obtain ⟨userId', name', extra'⟩ := q
    change some _ = some _ ↔ Settles text? _ [] _ ∧ Settles text? _ [] _ ∧ extra' = extra
    rw [settles_nil, settles_nil, Option.some.injEq, Partial.mk.injEq, eq_comm (a := extra)]
  | cons m pairs ih =>
    obtain ⟨k, w⟩ := m
    rw [foldlM_cons_eq_some, valuesOf_cons, valuesOf_cons]
    simp only [ih]
    by_cases isId : k = "userID"
    · have notName : k ≠ "name" := isId ▸ by decide
      have step : p.take (k, w) = (once p.userId w.text?).map ({ p with userId := · }) := if_pos isId
      rw [if_pos isId, if_neg notName, others_field (.inl isId), step, settles_cons, exists_taken]
      constructor
      · rintro ⟨next, one, id, rest⟩
        exact ⟨⟨next, one, id⟩, rest⟩
      · rintro ⟨⟨next, one, id⟩, rest⟩
        exact ⟨next, one, id, rest⟩
    · rw [if_neg isId]
      by_cases isName : k = "name"
      · have step : p.take (k, w) = (once p.name w.text?).map ({ p with name := · }) :=
          (if_neg isId).trans (if_pos isName)
        rw [if_pos isName, others_field (.inr isName), step, settles_cons, exists_taken]
        constructor
        · rintro ⟨next, one, id, name, rest⟩
          exact ⟨id, ⟨next, one, name⟩, rest⟩
        · rintro ⟨id, ⟨next, one, name⟩, rest⟩
          exact ⟨next, one, id, name, rest⟩
      · have step : p.take (k, w) = some { p with extra := insert k w.normal p.extra } :=
          (if_neg isId).trans (if_neg isName)
        rw [if_neg isName, others_other isId isName, step]
        constructor
        · rintro ⟨next, ⟨⟩, rest⟩
          exact rest
        · exact fun rest => ⟨_, rfl, rest⟩

theorem finish_eq_some {p : Channel.Partial} :
    p.finish.toOption = some c ↔ p = ⟨some c.userId, some c.name, c.extra⟩ := by
  obtain ⟨userId, name, extra⟩ := p
  obtain ⟨_, _, _⟩ := c
  cases userId <;> cases name <;> simp [Partial.finish, Except.toOption]

/-- What a value as it is written must hold to make a channel, and which one: each field stands once. -/
theorem ofWritten?_eq_some : ofWritten? w = some c ↔
    ∃ pairs, w = .object pairs ∧ valuesOf "userID" pairs = [.string c.userId] ∧
      valuesOf "name" pairs = [.string c.name] ∧ c.extra = normalTable (others pairs) := by
  have text {values : List Json} {s : String} : Settles text? none values (some s) ↔ values = [.string s] := by
    simp only [settles_some, text?_eq_some, exists_eq_right]
  have all (pairs : List (String × Json)) : recordOf Channel.record Partial.take pairs = some c ↔
      valuesOf "userID" pairs = [.string c.userId] ∧ valuesOf "name" pairs = [.string c.name] ∧
        c.extra = normalTable (others pairs) := by
    rw [recordOf, Option.bind_eq_some_iff, ← text, ← text]
    constructor
    · rintro ⟨q, taken, made⟩
      obtain rfl := finish_eq_some.mp made
      exact foldlM_take.mp taken
    · exact fun taken => ⟨⟨some c.userId, some c.name, c.extra⟩, foldlM_take.mpr taken, finish_eq_some.mpr rfl⟩
  constructor
  · intro made
    obtain ⟨pairs, is, made⟩ := Option.bind_eq_some_iff.mp made
    cases w with
    | object pairs =>
      cases is
      exact ⟨pairs, rfl, (all pairs).mp made⟩
    | _ => cases is
  · rintro ⟨pairs, rfl, taken⟩
    exact (all pairs).mpr taken

theorem valuesOf_others {k : String} (notId : k ≠ "userID") (notName : k ≠ "name") :
    valuesOf k (others pairs) = valuesOf k pairs := by
  induction pairs with
  | nil => rfl
  | cons m pairs ih =>
    obtain ⟨l, v⟩ := m
    by_cases field : l = "userID" ∨ l = "name"
    · have other : l ≠ k := by
        rintro rfl
        exact field.elim notId notName
      rw [others_field field, ih, valuesOf_cons, if_neg other]
    · rw [others_other (fun h => field (.inl h)) fun h => field (.inr h), valuesOf_cons, valuesOf_cons, ih]

/-- The other members of the value behind a record are made from those of the record. -/
theorem others_normalTable : others (normalTable pairs) = normalTable (others pairs) := by
  refine ((sorted_ofPairs _).filter _).eq_of_mem_iff (sorted_ofPairs _) fun m => ?_
  obtain ⟨k, v⟩ := m
  rw [mem_normalTable]
  refine (mem_others.trans (and_congr_left fun _ => mem_normalTable)).trans ?_
  constructor
  · rintro ⟨last, notId, notName⟩
    rwa [valuesOf_others notId notName]
  · intro last
    obtain ⟨w, isLast, -⟩ := Option.map_eq_some_iff.mp last
    have there := mem_valuesOf.mp (List.mem_of_getLast? isLast)
    obtain ⟨-, notId, notName⟩ := mem_others.mp there
    exact ⟨valuesOf_others notId notName ▸ last, notId, notName⟩

def RepeatsField (pairs : List (String × Json)) : Prop := Repeats "userID" pairs ∨ Repeats "name" pairs

/-- A record makes the same channel as the value behind it, unless a field is repeated: then it makes none. -/
theorem ofWritten?_iff : ofWritten? w = some c ↔
    Channel.ofJson w.normal = .ok c ∧ ∀ pairs, w = .object pairs → ¬ RepeatsField pairs := by
  rw [ofWritten?_eq_some, ofJson_eq_ok]
  constructor
  · rintro ⟨pairs, rfl, id, name, extra⟩
    refine ⟨⟨normalTable pairs, rfl, lookup_of_only id, lookup_of_only name,
      extra.trans others_normalTable.symm⟩, ?_⟩
    rintro _ ⟨⟩ (repeated | repeated)
    · exact not_repeats_of_only id repeated
    · exact not_repeats_of_only name repeated
  · rintro ⟨⟨members, is, id, name, extra⟩, once⟩
    obtain ⟨pairs, rfl, rfl⟩ := normal_eq_object is
    obtain ⟨onceId, onceName⟩ := not_or.mp (once pairs rfl)
    exact ⟨pairs, rfl, only_string onceId id, only_string onceName name, extra.trans others_normalTable⟩

end Channel

namespace ChannelList

/-- A list of channels from a value as it is written. -/
def ofWritten? (w : Json) : Option (List Channel) := w.items?.bind (List.mapM Channel.ofWritten?)

/-- What is known of the envelope once one more member was taken, as it is written. -/
def take (known : Option (List Channel)) (m : String × Json) : Option (Option (List Channel)) :=
  if m.1 = "channels" then once known (ofWritten? m.2) else some known

theorem channelsReader_takes (room : Nat) : Takes (channelsReader room) room ofWritten? :=
  list_takes Channel.reader_takes

theorem member_takes (room : Nat) : TakesMember (ChannelList.member room) room take := by
  intro k known c d w c' parted read
  unfold ChannelList.member take
  split
  · exact field_yields (channelsReader_takes room) parted read
  · exact .after (passMember_yields parted read) rfl

variable {w : Json} {channels : List Channel} {items : List Json} {pairs : List (String × Json)}

theorem foldlM_take {known result : Option (List Channel)} :
    pairs.foldlM take known = some result ↔ Settles ofWritten? known (valuesOf "channels" pairs) result := by
  induction pairs generalizing known with
  | nil => exact Option.some_inj.trans settles_nil.symm
  | cons m pairs ih =>
    obtain ⟨k, w⟩ := m
    rw [foldlM_cons_eq_some, valuesOf_cons]
    simp only [ih]
    by_cases field : k = "channels"
    · have step : take known (k, w) = once known (ofWritten? w) := if_pos field
      rw [if_pos field, settles_cons, step]
    · have step : take known (k, w) = some known := if_neg field
      rw [if_neg field, step]
      constructor
      · rintro ⟨next, ⟨⟩, rest⟩
        exact rest
      · exact fun rest => ⟨known, rfl, rest⟩

/-- What an envelope must hold to make a list, and which one: the channels stand once, if at all. -/
theorem recordOf_eq_some : recordOf ChannelList.record take pairs = some channels ↔
    (valuesOf "channels" pairs = [] ∧ channels = []) ∨
      ∃ w, valuesOf "channels" pairs = [w] ∧ ofWritten? w = some channels := by
  rw [recordOf, Option.bind_eq_some_iff, ← settles_none (f := ofWritten?), ← settles_some]
  constructor
  · rintro ⟨known, taken, made⟩
    cases known with
    | none =>
      cases made
      exact .inl ⟨foldlM_take.mp taken, rfl⟩
    | some known =>
      cases made
      exact .inr (foldlM_take.mp taken)
  · rintro (⟨taken, rfl⟩ | taken)
    · exact ⟨none, foldlM_take.mpr taken, rfl⟩
    · exact ⟨some channels, foldlM_take.mpr taken, rfl⟩

theorem mapM_cons_eq_some {item : Json} : (item :: items).mapM Channel.ofWritten? = some channels ↔
    ∃ c rest, Channel.ofWritten? item = some c ∧ items.mapM Channel.ofWritten? = some rest ∧ channels = c :: rest := by
  rw [List.mapM_cons]
  constructor
  · intro made
    obtain ⟨c, first, made⟩ := Option.bind_eq_some_iff.mp made
    obtain ⟨rest, others, made⟩ := Option.bind_eq_some_iff.mp made
    exact ⟨c, rest, first, others, (Option.some.inj made).symm⟩
  · rintro ⟨c, rest, first, others, rfl⟩
    exact Option.bind_eq_some_iff.mpr ⟨c, first, Option.bind_eq_some_iff.mpr ⟨rest, others, rfl⟩⟩

/-- A field is repeated within a record of an array. -/
def RepeatsWithin (items : List Json) : Prop := ∃ record, .object record ∈ items ∧ Channel.RepeatsField record

theorem repeatsWithin_cons {item : Json} : RepeatsWithin (item :: items) ↔
    (∃ record, item = .object record ∧ Channel.RepeatsField record) ∨ RepeatsWithin items := by
  unfold RepeatsWithin
  simp only [List.mem_cons, or_and_right, exists_or, eq_comm (a := item)]

theorem mapM_iff : items.mapM Channel.ofWritten? = some channels ↔
    (items.map normal).mapM Channel.ofJson = .ok channels ∧ ¬ RepeatsWithin items := by
  induction items generalizing channels with
  | nil =>
    constructor
    · rintro ⟨⟩
      exact ⟨rfl, fun ⟨_, there, _⟩ => nomatch there⟩
    · rintro ⟨⟨⟩, -⟩
      rfl
  | cons item items ih =>
    rw [mapM_cons_eq_some, List.map_cons, mapM_cons_eq_ok, repeatsWithin_cons, not_or]
    constructor
    · rintro ⟨c, rest, first, others, rfl⟩
      obtain ⟨first, onceFirst⟩ := Channel.ofWritten?_iff.mp first
      obtain ⟨others, once⟩ := ih.mp others
      exact ⟨⟨c, rest, first, others, rfl⟩, fun ⟨record, is, repeated⟩ => onceFirst record is repeated, once⟩
    · rintro ⟨⟨c, rest, first, others, rfl⟩, onceFirst, once⟩
      refine ⟨c, rest, Channel.ofWritten?_iff.mpr ⟨first, ?_⟩, ih.mpr ⟨others, once⟩, rfl⟩
      exact fun record is repeated => onceFirst ⟨record, is, repeated⟩

/-- A list makes the same channels as the value behind it, unless a record of it repeats a field. -/
theorem ofWritten?_iff : ofWritten? w = some channels ↔
    ofJson w.normal = .ok channels ∧ ∀ items, w = .array items → ¬ RepeatsWithin items := by
  cases w with
  | array items =>
    rw [normal, normalItems_eq]
    refine mapM_iff.trans (and_congr_right fun _ => ?_)
    exact ⟨fun once _ is => Json.array.inj is ▸ once, fun once => once items rfl⟩
  | _ =>
    constructor
    · rintro ⟨⟩
    · rintro ⟨⟨⟩, -⟩

end ChannelList

end ChannelFeed
