import ChannelFeed.Proofs.Json.Written

/-!
# Repeated keys

The values that stand under a key in an object as it is written. The value behind it has the last of them; a reader that
takes a field once has the only one of them, or fails.
-/

namespace ChannelFeed.Json

variable {α : Type} {key k : String} {v w : Json} {ms : Members} {pairs : List (String × Json)}

/-- The values that stand under a key, in their order. -/
def valuesOf (key : String) (pairs : List (String × Json)) : List Json :=
  (pairs.filter fun m => m.1 = key).map (·.2)

/-- More than one value stands under the key. -/
def Repeats (key : String) (pairs : List (String × Json)) : Prop := 1 < (valuesOf key pairs).length

theorem valuesOf_cons {m : String × Json} :
    valuesOf key (m :: pairs) = if m.1 = key then m.2 :: valuesOf key pairs else valuesOf key pairs := by
  unfold valuesOf
  rw [List.filter_cons]
  by_cases same : m.1 = key
  · rw [if_pos same, if_pos (decide_eq_true same), List.map_cons]
  · rw [if_neg same, if_neg fun h => same (of_decide_eq_true h)]

theorem mem_valuesOf : w ∈ valuesOf key pairs ↔ (key, w) ∈ pairs := by
  unfold valuesOf
  rw [List.mem_map]
  constructor
  · rintro ⟨⟨k, w⟩, there, rfl⟩
    obtain ⟨there, same⟩ := List.mem_filter.mp there
    exact of_decide_eq_true same ▸ there
  · exact fun there => ⟨(key, w), List.mem_filter.mpr ⟨there, decide_eq_true rfl⟩, rfl⟩

theorem lookup_insert : lookup key (insert k v ms) = if k = key then some v else lookup key ms := by
  induction ms with
  | nil => exact lookup_cons
  | cons m ms ih =>
    obtain ⟨l, w⟩ := m
    unfold insert
    split
    · exact lookup_cons
    · split
      · next same =>
        subst same
        rw [lookup_cons, lookup_cons]
        split <;> rfl
      · next other =>
        rw [lookup_cons, ih, lookup_cons]
        by_cases here : l = key
        · subst here
          rw [if_pos rfl, if_pos rfl, if_neg other]
        · rw [if_neg here, if_neg here]

theorem lookup_insertAll : lookup key (pairs.foldl (fun ms (k, v) => insert k v ms) ms) =
    (valuesOf key pairs).getLast?.or (lookup key ms) := by
  induction pairs generalizing ms with
  | nil => rfl
  | cons m pairs ih =>
    rw [List.foldl_cons, ih, lookup_insert, valuesOf_cons]
    split
    · rw [List.getLast?_cons]
      cases (valuesOf key pairs).getLast? <;> rfl
    · rfl

theorem valuesOf_normalMembers : valuesOf key (normalMembers pairs) = (valuesOf key pairs).map normal := by
  induction pairs with
  | nil => rfl
  | cons m pairs ih =>
    rw [normalMembers, valuesOf_cons, valuesOf_cons, ih]
    split <;> rfl

theorem lookup_normalTable : lookup key (Reader.normalTable pairs) = (valuesOf key pairs).getLast?.map normal := by
  rw [Reader.normalTable, ofPairs, lookup_insertAll, valuesOf_normalMembers, List.getLast?_map]
  exact Option.or_none

theorem lookup_normalTable_eq_none : lookup key (Reader.normalTable pairs) = none ↔ valuesOf key pairs = [] := by
  rw [lookup_normalTable, Option.map_eq_none_iff, List.getLast?_eq_none_iff]

theorem lookup_of_only (only : valuesOf key pairs = [w]) :
    lookup key (Reader.normalTable pairs) = some w.normal := by
  rw [lookup_normalTable, only]
  rfl

theorem mem_normalTable : (key, v) ∈ Reader.normalTable pairs ↔ (valuesOf key pairs).getLast?.map normal = some v := by
  rw [← lookup_normalTable]
  exact ⟨lookup_of_mem (sorted_ofPairs _).distinctKeys, mem_of_lookup⟩

/-- A value that is found under a key that is not repeated is made from the only one there. -/
theorem only_value (once : ¬ Repeats key pairs) (found : lookup key (Reader.normalTable pairs) = some v) :
    ∃ w, valuesOf key pairs = [w] ∧ w.normal = v := by
  rw [lookup_normalTable] at found
  unfold Repeats at once
  cases values : valuesOf key pairs with
  | nil =>
    rw [values] at found
    cases found
  | cons w ws =>
    cases ws with
    | nil =>
      rw [values] at found
      exact ⟨w, rfl, Option.some.inj found⟩
    | cons w' ws =>
      rw [values] at once
      exact absurd (Nat.succ_lt_succ (Nat.succ_pos _)) once

theorem normal_eq_string {s : String} : w.normal = .string s ↔ w = .string s := by
  cases w <;> simp [normal]

/-- A text that is found under a key, and that is not repeated, is the only value there. -/
theorem only_string {s : String} (once : ¬ Repeats key pairs)
    (found : lookup key (Reader.normalTable pairs) = some (.string s)) : valuesOf key pairs = [.string s] := by
  obtain ⟨w, is, text⟩ := only_value once found
  rw [is, normal_eq_string.mp text]

theorem not_repeats_of_none (empty : valuesOf key pairs = []) : ¬ Repeats key pairs := by
  unfold Repeats
  rw [empty]
  exact Nat.not_lt_zero 1

theorem not_repeats_of_only (only : valuesOf key pairs = [v]) : ¬ Repeats key pairs := by
  unfold Repeats
  rw [only]
  exact Nat.lt_irrefl 1

theorem normal_eq_object {members : Members} (is : w.normal = .object members) :
    ∃ pairs, w = .object pairs ∧ members = Reader.normalTable pairs := by
  cases w with
  | object pairs =>
    cases is
    exact ⟨pairs, rfl, rfl⟩
  | _ => cases is

/-- A field that may occur once, given one more value under its key. -/
def once (known : Option α) (x : Option α) : Option (Option α) :=
  match known with
  | some _ => none
  | none => x.map some

/-- What is known of several fields is known once one of them was taken. -/
theorem exists_taken {σ : Type} {known x : Option α} {put : Option α → σ} {p : σ → Prop} :
    (∃ s, (once known x).map put = some s ∧ p s) ↔ ∃ next, once known x = some next ∧ p (put next) := by
  constructor
  · rintro ⟨s, taken, holds⟩
    obtain ⟨next, one, rfl⟩ := Option.map_eq_some_iff.mp taken
    exact ⟨next, one, holds⟩
  · rintro ⟨next, one, holds⟩
    exact ⟨put next, Option.map_eq_some_iff.mpr ⟨next, one, rfl⟩, holds⟩

/-- What is known of a field behind these values: each of them made something, and altogether there is one at most. -/
def Settles (f : Json → Option α) (known : Option α) (values : List Json) (result : Option α) : Prop :=
  known.toList.map some ++ values.map f = result.toList.map some

variable {f : Json → Option α} {known result : Option α} {values : List Json}

theorem settles_nil : Settles f known [] result ↔ known = result := by
  unfold Settles
  cases known <;> cases result <;> simp

theorem settles_cons :
    Settles f known (w :: values) result ↔ ∃ next, once known (f w) = some next ∧ Settles f next values result := by
  unfold Settles once
  cases known with
  | some x => cases result <;> simp
  | none =>
    cases made : f w with
    | none => cases result <;> simp [made]
    | some x => simp [made]

theorem settles_none : Settles f none values none ↔ values = [] := List.map_eq_nil_iff

/-- A field that was not known before is known if one value stands under its key. -/
theorem settles_some {x : α} : Settles f none values (some x) ↔ ∃ w, values = [w] ∧ f w = some x := by
  change values.map f = [some x] ↔ _
  rw [List.map_eq_singleton_iff]

theorem text?_eq_some {s : String} : text? w = some s ↔ w = .string s := by
  cases w <;> simp [text?]

end ChannelFeed.Json
