import ChannelFeed.Json.Basic

/-!
# Members in their order

An object as a table: members put in by `insert` stand in the order of their keys, each key once. Two
tables with the same members are then the same list, whatever the order in which they were filled.
-/

namespace ChannelFeed.Json

variable {key k : String} {value v : Json} {a b ms : Members} {pairs : List (String × Json)}

/-- The keys stand in their order, each of them once. -/
def Sorted (ms : Members) : Prop := ms.Pairwise fun m n => m.1 < n.1

instance : Decidable (Sorted ms) := inferInstanceAs (Decidable (ms.Pairwise fun m n => m.1 < n.1))

/-- No two pairs have the same key. -/
def DistinctKeys (pairs : List (String × Json)) : Prop := pairs.Pairwise fun m n => m.1 ≠ n.1

/-- The members have no such key. -/
def Lacks (key : String) (ms : Members) : Prop := ∀ m ∈ ms, m.1 ≠ key

instance : Decidable (Lacks key ms) := inferInstanceAs (Decidable (∀ m ∈ ms, m.1 ≠ key))

theorem Sorted.distinctKeys (sorted : Sorted ms) : DistinctKeys ms := by
  refine List.Pairwise.imp ?_ sorted
  intro m n less same
  exact String.lt_irrefl n.1 (same ▸ less)

theorem Sorted.filter (sorted : Sorted ms) (p : String × Json → Bool) : Sorted (ms.filter p) :=
  List.Pairwise.filter p sorted

theorem DistinctKeys.eq (distinct : DistinctKeys pairs) {w : Json} (first : (k, v) ∈ pairs)
    (second : (k, w) ∈ pairs) : v = w := by
  induction pairs with
  | nil => cases first
  | cons m pairs ih =>
    obtain ⟨other, distinct⟩ := List.pairwise_cons.mp distinct
    rcases List.mem_cons.mp first with rfl | inFirst
    · rcases List.mem_cons.mp second with same | inSecond
      · exact (Prod.mk.inj same).2.symm
      · exact absurd rfl (other (k, w) inSecond)
    · rcases List.mem_cons.mp second with rfl | inSecond
      · exact absurd rfl (other (k, v) inFirst)
      · exact ih distinct inFirst inSecond

theorem Sorted.eq_of_mem_iff (first : Sorted a) (second : Sorted b) (same : ∀ m, m ∈ a ↔ m ∈ b) : a = b := by
  have nodup {ms : Members} (sorted : Sorted ms) : ms.Nodup := by
    refine List.Pairwise.imp ?_ sorted.distinctKeys
    intro m n different same
    exact different (congrArg Prod.fst same)
  refine List.Perm.eq_of_pairwise ?_ first second
    ((List.perm_ext_iff_of_nodup (nodup first) (nodup second)).mpr same)
  intro m n _ _ less greater
  exact absurd greater (String.lt_asymm less)

theorem lookup_cons : lookup key ((k, v) :: ms) = if k = key then some v else lookup key ms := by
  unfold lookup
  rw [List.find?_cons]
  by_cases same : k = key
  · rw [if_pos same, decide_eq_true same]
    rfl
  · rw [if_neg same, decide_eq_false same]

theorem mem_of_lookup (found : lookup key ms = some v) : (key, v) ∈ ms := by
  induction ms with
  | nil => cases found
  | cons m ms ih =>
    obtain ⟨k, w⟩ := m
    rw [lookup_cons] at found
    split at found
    · next same =>
      cases found
      exact same ▸ List.mem_cons_self
    · exact List.mem_cons_of_mem _ (ih found)

theorem lookup_of_mem (distinct : DistinctKeys ms) (there : (key, v) ∈ ms) : lookup key ms = some v := by
  induction ms with
  | nil => cases there
  | cons m ms ih =>
    obtain ⟨k, w⟩ := m
    obtain ⟨other, distinct⟩ := List.pairwise_cons.mp distinct
    rw [lookup_cons]
    rcases List.mem_cons.mp there with same | there
    · obtain ⟨rfl, rfl⟩ := Prod.mk.inj same
      exact if_pos rfl
    · rw [if_neg (other _ there)]
      exact ih distinct there

theorem mem_insert (lacks : Lacks key ms) {m : String × Json} :
    m ∈ insert key value ms ↔ m = (key, value) ∨ m ∈ ms := by
  induction ms with
  | nil => rw [insert, List.mem_singleton, iff_self_or]; exact fun h => nomatch h
  | cons n ms ih =>
    obtain ⟨k, w⟩ := n
    obtain ⟨different, lacks⟩ := List.forall_mem_cons.mp lacks
    unfold insert
    split
    · exact List.mem_cons
    · rw [if_neg (Ne.symm different), List.mem_cons, ih lacks, List.mem_cons]
      exact or_left_comm

/-- What is in the members after one was put in is that one or was there before. -/
theorem mem_of_mem_insert {m : String × Json} (there : m ∈ insert key value ms) : m = (key, value) ∨ m ∈ ms := by
  induction ms with
  | nil => exact .inl (List.mem_singleton.mp there)
  | cons n ms ih =>
    obtain ⟨k, w⟩ := n
    unfold insert at there
    split at there
    · exact List.mem_cons.mp there
    · split at there
      · exact (List.mem_cons.mp there).imp_right (List.mem_cons_of_mem _)
      · rcases List.mem_cons.mp there with rfl | there
        · exact .inr List.mem_cons_self
        · exact (ih there).imp_right (List.mem_cons_of_mem _)

theorem Sorted.insert (sorted : Sorted ms) : Sorted (insert key value ms) := by
  induction ms with
  | nil => exact List.pairwise_singleton _ _
  | cons n ms ih =>
    obtain ⟨k, w⟩ := n
    obtain ⟨above, below⟩ := List.pairwise_cons.mp sorted
    unfold Json.insert
    split
    · next less =>
      refine List.pairwise_cons.mpr ⟨?_, sorted⟩
      intro m there
      rcases List.mem_cons.mp there with rfl | there
      · exact less
      · exact String.lt_trans less (above m there)
    · next notLess =>
      split
      · next same =>
        subst same
        exact List.pairwise_cons.mpr ⟨above, below⟩
      · next different =>
        have greater : k < key := Std.lt_of_le_of_ne (String.not_lt.mp notLess) (Ne.symm different)
        refine List.pairwise_cons.mpr ⟨?_, ih below⟩
        intro m there
        rcases mem_of_mem_insert there with rfl | there
        · exact greater
        · exact above m there

theorem sorted_insertAll (pairs : List (String × Json)) (sorted : Sorted ms) :
    Sorted (pairs.foldl (fun ms (k, v) => insert k v ms) ms) := by
  induction pairs generalizing ms with
  | nil => exact sorted
  | cons pair pairs ih => exact ih sorted.insert

theorem mem_insertAll (distinct : DistinctKeys pairs) (new : ∀ pair ∈ pairs, Lacks pair.1 ms)
    {m : String × Json} : m ∈ pairs.foldl (fun ms (k, v) => insert k v ms) ms ↔ m ∈ ms ∨ m ∈ pairs := by
  induction pairs generalizing ms with
  | nil => exact (or_iff_left List.not_mem_nil).symm
  | cons pair pairs ih =>
    obtain ⟨k, v⟩ := pair
    obtain ⟨other, distinct⟩ := List.pairwise_cons.mp distinct
    obtain ⟨lacks, new⟩ := List.forall_mem_cons.mp new
    have lacksNext : ∀ pair ∈ pairs, Lacks pair.1 (insert k v ms) := by
      intro pair next m there
      rcases mem_of_mem_insert there with rfl | there
      · exact other pair next
      · exact new pair next m there
    rw [List.foldl_cons, ih distinct lacksNext, mem_insert lacks, List.mem_cons, or_assoc, or_left_comm]

theorem sorted_ofPairs (pairs : List (String × Json)) : Sorted (ofPairs pairs) :=
  sorted_insertAll pairs List.Pairwise.nil

theorem mem_ofPairs (distinct : DistinctKeys pairs) {m : String × Json} : m ∈ ofPairs pairs ↔ m ∈ pairs :=
  (mem_insertAll distinct fun _ _ _ there => absurd there List.not_mem_nil).trans (or_iff_right List.not_mem_nil)

theorem Sorted.ofPairs_eq (sorted : Sorted ms) (distinct : DistinctKeys pairs) (same : ∀ m, m ∈ pairs ↔ m ∈ ms) :
    ofPairs pairs = ms :=
  (sorted_ofPairs pairs).eq_of_mem_iff sorted fun m => (mem_ofPairs distinct).trans (same m)

end ChannelFeed.Json
