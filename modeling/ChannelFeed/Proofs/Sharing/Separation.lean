import ChannelFeed.Proofs.Sharing.Replay
import Mathlib.Data.List.Nodup

/-!
# Keys apart

No two keys lead to one slot, be they keys of one cache or of two. So a slot whose key is forgotten is found by nobody
any more, and what is made later under the same key is another slot.
-/
namespace ChannelFeed.Cache

variable {α : Type}

/-- A change of one cache that adds no slot to it adds none to all. -/
theorem sublist_flatMap_modify {f : Directory → Directory}
    (fewer : ∀ d, (Names.things (f d)).Sublist (Names.things d)) (caches : List Directory) (cache : Nat) :
    ((caches.modify cache f).flatMap Names.things).Sublist (caches.flatMap Names.things) := by
  induction caches generalizing cache with
  | nil => simp
  | cons d caches ih =>
    cases cache with
    | zero => simpa using fewer d
    | succ cache => simpa using ih cache

theorem perm_flatMap_modify {caches : List Directory} {cache : Nat} (known : cache < caches.length) (key : String)
    (entry : EntryId) :
    ((caches.modify cache (· ++ [(key, entry)])).flatMap Names.things).Perm
      (entry :: caches.flatMap Names.things) := by
  induction caches generalizing cache with
  | nil => cases known
  | cons d caches ih =>
    cases cache with
    | zero =>
      rw [List.modify_zero_cons, List.flatMap_cons, List.flatMap_cons, Names.things, List.map_append, List.append_assoc]
      exact List.perm_middle
    | succ cache =>
      rw [List.modify_succ_cons, List.flatMap_cons, List.flatMap_cons]
      exact ((ih (Nat.lt_of_succ_lt_succ known)).append_left _).trans List.perm_middle

namespace Registry

variable {r : Registry α} {cache cache' : Nat} {key key' : String} {entry : EntryId}

/-- No slot stands under two keys. -/
def Separate (r : Registry α) : Prop := (r.caches.flatMap Names.things).Nodup

theorem separate_empty (caches : Nat) : (empty caches : Registry α).Separate := by
  have none : ((empty caches : Registry α).caches.flatMap Names.things) = [] := by
    rw [List.flatMap_eq_nil_iff]
    intro d there
    rw [List.eq_of_mem_replicate there]
    rfl
  rw [Separate, none]
  exact List.nodup_nil

theorem exists_of_get? (found : r.get? cache key = some entry) :
    ∃ d, r.caches[cache]? = some d ∧ (key, entry) ∈ d := by
  unfold get? directory at found
  cases there : r.caches[cache]? with
  | none =>
    rw [there] at found
    cases found
  | some d =>
    rw [there] at found
    obtain ⟨front, back, rfl, -⟩ := List.lookup_eq_some_iff.mp found
    exact ⟨_, rfl, List.mem_append_right _ List.mem_cons_self⟩

theorem get?_ne_of_not_listed (unlisted : r.isListed entry = false) (cache : Nat) (key : String) :
    r.get? cache key ≠ some entry := by
  intro found
  rw [isListed_of_get? found] at unlisted
  cases unlisted

/-- A look-up that comes to a slot that was made before has found it by its key. -/
theorem get?_of_getOrAdd (made : entry < r.cells.length) (looked : (r.getOrAdd cache key).1 = entry) :
    r.get? cache key = some entry := by
  unfold getOrAdd at looked
  split at looked
  · next found =>
    subst looked
    exact found
  · subst looked
    exact absurd made (Nat.lt_irrefl _)

namespace Separate

theorem update (separate : r.Separate) (entry : EntryId) (f : Slot α → Slot α) : (r.update entry f).Separate := separate

theorem getOrAdd (separate : r.Separate) (closed : r.Closed) (cache : Nat) (key : String) :
    (r.getOrAdd cache key).2.Separate := by
  unfold Registry.getOrAdd
  split
  · exact separate
  · have new : r.cells.length ∉ r.caches.flatMap Names.things := by
      intro there
      obtain ⟨d, known, leads⟩ := List.mem_flatMap.mp there
      exact Nat.lt_irrefl _ (closed d known _ leads)
    by_cases known : cache < r.caches.length
    · exact (perm_flatMap_modify known key _).nodup_iff.mpr (List.nodup_cons.mpr ⟨new, separate⟩)
    · rw [Separate, List.modify_eq_self (Nat.le_of_not_lt known)]
      exact separate

theorem remove (separate : r.Separate) (cache : Nat) (key : String) : (r.remove cache key).2.Separate :=
  separate.sublist (sublist_flatMap_modify (fun _ => List.filter_sublist.map _) r.caches cache)

theorem clear (separate : r.Separate) (cache : Nat) : (r.clear cache).Separate :=
  separate.sublist (sublist_flatMap_modify (f := fun _ => []) (fun _ => List.nil_sublist _) r.caches cache)

theorem unique (separate : r.Separate) {d d' : Directory} (here : r.caches[cache]? = some d)
    (there : r.caches[cache']? = some d') (leads : (key, entry) ∈ d) (also : (key', entry) ∈ d') :
    cache = cache' ∧ key = key' := by
  obtain ⟨once, apart⟩ := List.nodup_flatMap.mp separate
  obtain ⟨inside, rfl⟩ := List.getElem?_eq_some_iff.mp here
  obtain ⟨inside', rfl⟩ := List.getElem?_eq_some_iff.mp there
  have first : entry ∈ Names.things r.caches[cache] := List.mem_map.mpr ⟨_, leads, rfl⟩
  have second : entry ∈ Names.things r.caches[cache'] := List.mem_map.mpr ⟨_, also, rfl⟩
  rcases Nat.lt_trichotomy cache cache' with before | rfl | behind
  · exact absurd second (List.pairwise_iff_getElem.mp apart _ _ inside inside' before first)
  · have both := List.inj_on_of_nodup_map (once _ (List.getElem_mem inside)) leads also rfl
    exact ⟨rfl, congrArg Prod.fst both⟩
  · exact absurd first (List.pairwise_iff_getElem.mp apart _ _ inside' inside behind second)

theorem key_unique (separate : r.Separate) (found : r.get? cache key = some entry)
    (also : r.get? cache' key' = some entry) : cache = cache' ∧ key = key' := by
  obtain ⟨d, here, leads⟩ := exists_of_get? found
  obtain ⟨d', there, leads'⟩ := exists_of_get? also
  exact separate.unique here there leads leads'

/-- A slot is found by nobody any more once its cache has lost its key. -/
private theorem not_listed_of_modify (separate : r.Separate) (found : r.get? cache key = some entry)
    {cells : List (Cell α)} {f : Directory → Directory} (lost : ∀ d, ∀ pair ∈ f d, pair ∈ d ∧ pair.1 ≠ key) :
    (⟨cells, r.caches.modify cache f⟩ : Registry α).isListed entry = false := by
  obtain ⟨d, here, leads⟩ := exists_of_get? found
  refine Bool.eq_false_iff.mpr fun listed => ?_
  obtain ⟨d', known, leads'⟩ := isListed_iff.mp listed
  obtain ⟨⟨key', other⟩, stands, rfl⟩ := List.mem_map.mp leads'
  obtain ⟨place, now⟩ := List.getElem?_of_mem known
  rw [List.getElem?_modify, Option.map_eq_map, Option.map_eq_some_iff] at now
  obtain ⟨old, was, rfl⟩ := now
  by_cases same : cache = place
  · rw [if_pos same] at stands
    obtain ⟨before, different⟩ := lost old _ stands
    exact different (separate.unique here was leads before).2.symm
  · rw [if_neg same] at stands
    exact same (separate.unique here was leads stands).1

/-- A slot whose key is forgotten, alone or with all others of its cache, is left without one, and as it is. -/
theorem not_listed_of_forgotten (separate : r.Separate) (found : r.get? cache key = some entry) {r' : Registry α}
    (forgotten : r' = (r.remove cache key).2 ∨ r' = r.clear cache) :
    r'.isListed entry = false ∧ r'.cell entry = r.cell entry := by
  rcases forgotten with rfl | rfl
  · refine ⟨separate.not_listed_of_modify found ?_, rfl⟩
    intro d pair stands
    exact ⟨(List.mem_filter.mp stands).1, bne_iff_ne.mp (List.mem_filter.mp stands).2⟩
  · refine ⟨separate.not_listed_of_modify found ?_, rfl⟩
    intro d pair none
    cases none

end Separate

/-- Keys lead to slots that were made, and no two to the same one. -/
structure Orderly (r : Registry α) : Prop where
  closed : r.Closed
  separate : r.Separate

theorem orderly_empty (caches : Nat) : (empty caches : Registry α).Orderly :=
  ⟨closed_empty caches, separate_empty caches⟩

namespace Orderly

theorem update (orderly : r.Orderly) (entry : EntryId) (f : Slot α → Slot α) : (r.update entry f).Orderly :=
  ⟨orderly.closed.update entry f, orderly.separate.update entry f⟩

theorem getOrAdd (orderly : r.Orderly) (cache : Nat) (key : String) : (r.getOrAdd cache key).2.Orderly :=
  ⟨orderly.closed.getOrAdd cache key, orderly.separate.getOrAdd orderly.closed cache key⟩

theorem remove (orderly : r.Orderly) (cache : Nat) (key : String) : (r.remove cache key).2.Orderly :=
  ⟨orderly.closed.remove cache key, orderly.separate.remove cache key⟩

theorem clear (orderly : r.Orderly) (cache : Nat) : (r.clear cache).Orderly :=
  ⟨orderly.closed.clear cache, orderly.separate.clear cache⟩

end Orderly

end Registry

namespace Owned

variable {o p : Owned α} {d : Deed α} {past : List (Deed α)} {entry : EntryId}

theorem orderly_step (orderly : o.shared.registry.Orderly) (done : o.step d = some p) :
    p.shared.registry.Orderly := by
  rcases step_cases done with ⟨a, -, -, stepped, -⟩ | ⟨same, -⟩
  · cases a with
    | read =>
      rw [← Option.some.inj stepped]
      exact orderly
    | add cache key =>
      rw [← Option.some.inj stepped]
      exact orderly.getOrAdd cache key
    | remove cache key =>
      rw [← Option.some.inj stepped]
      exact orderly.remove cache key
    | clear cache =>
      rw [← Option.some.inj stepped]
      exact orderly.clear cache
    | claim h =>
      obtain ⟨-, -, -, same⟩ := Shared.step_claim.mp stepped
      rw [same]
      exact orderly.update h.claim.entry Slot.claimed
    | refuse other =>
      rw [(Shared.step_refuse.mp stepped).2]
      exact orderly
    | mark other =>
      rw [(Shared.step_mark.mp stepped).2]
      exact orderly.update other Slot.markedStale
    | settle h state =>
      rw [(Shared.step_settle.mp stepped).2]
      exact orderly.update h.claim.entry (·.settled h.claim.generation state)
    | drop h =>
      rw [(Shared.step_drop.mp stepped).2]
      simp only [Held.letGo]
      split
      · exact orderly
      · exact orderly.update h.claim.entry Slot.released
  · rw [same]
    exact orderly

theorem orderly_run (orderly : o.shared.registry.Orderly) (ran : o.run past = some p) :
    p.shared.registry.Orderly := by
  induction past generalizing p with
  | nil =>
    cases ran
    exact orderly
  | cons d past ih =>
    obtain ⟨m, earlier, done⟩ := run_cons.mp ran
    exact orderly_step (ih earlier) done

theorem not_listed_run (made : entry < o.shared.registry.cells.length)
    (unlisted : o.shared.registry.isListed entry = false) (ran : o.run past = some p) :
    p.shared.registry.isListed entry = false ∧ o.shared.registry.cells.length ≤ p.shared.registry.cells.length := by
  induction past generalizing p with
  | nil =>
    cases ran
    exact ⟨unlisted, Nat.le_refl _⟩
  | cons d past ih =>
    obtain ⟨m, earlier, done⟩ := run_cons.mp ran
    obtain ⟨still, longer⟩ := ih earlier
    refine ⟨Bool.eq_false_iff.mpr fun listed => ?_, Nat.le_trans longer (length_step done)⟩
    rcases step_cases done with ⟨a, -, -, stepped, -⟩ | ⟨same, -⟩
    · rw [isListed_of_step (Nat.lt_of_lt_of_le made longer) stepped listed] at still
      cases still
    · rw [same, still] at listed
      cases listed

theorem references_made_step (orderly : o.shared.registry.Orderly)
    (made : ∀ entry ∈ o.references, entry < o.shared.registry.cells.length) (done : o.step d = some p) :
    ∀ entry ∈ p.references, entry < p.shared.registry.cells.length := by
  intro entry there
  rcases reference_cases done there with old | ⟨cache, key, looked, rfl⟩
  · exact Nat.lt_of_lt_of_le (made entry old) (length_step done)
  · have within := orderly.closed.getOrAdd_lt cache key
    rcases looked with rfl | rfl
    · cases done
      rcases List.mem_append.mp there with old | new
      · exact made _ old
      · exact orderly.closed.get?_lt (Option.mem_toList.mp new)
    · rw [← Option.some.inj (step_access done).2.1]
      exact within

theorem references_made_run {caches : Nat} (ran : (start caches).run past = some o) :
    ∀ entry ∈ o.references, entry < o.shared.registry.cells.length := by
  induction past generalizing o with
  | nil =>
    cases ran
    exact fun entry none => absurd none List.not_mem_nil
  | cons d past ih =>
    obtain ⟨m, earlier, done⟩ := run_cons.mp ran
    exact references_made_step (orderly_run (Registry.orderly_empty caches) earlier) (ih earlier) done

/-- What stays apart among threads, at a point of a run. -/
structure Isolated (past : List (Deed α)) (o : Owned α) : Prop where
  /-- A slot comes from its own operations. -/
  cell : ∀ entry, o.shared.registry.cell entry = replay .fresh ((log past).on entry)
  /-- Whoever operates on a slot has a reference to it or a claim on it. -/
  operated : ∀ d p entry operation, o.step d = some p → d.operation? = some (entry, operation) →
    entry ∈ o.references ∨ ∃ h ∈ o.shared.held, h.claim.entry = entry
  /-- A reference comes from another one, or from a key that leads to the slot. -/
  referred : ∀ d p entry, o.step d = some p → entry ∈ p.references →
    entry ∈ o.references ∨ ∃ cache key, (d = .lookUp cache key ∨ d = .access (.add cache key)) ∧
      (o.shared.registry.getOrAdd cache key).1 = entry
  /-- A claim is taken by someone with a reference to the slot, and stays a claim on it. -/
  claimed : ∀ a p h, o.step (.access a) = some p → h ∈ p.shared.held →
    (∃ old ∈ o.shared.held, h.number = old.number ∧ h.claim = old.claim) ∨ a = .claim h ∧ h.claim.entry ∈ o.references
  /-- Different keys lead to different slots. -/
  keys : ∀ cache key cache' key' entry, o.shared.registry.get? cache key = some entry →
    o.shared.registry.get? cache' key' = some entry → cache = cache' ∧ key = key'
  /-- A slot whose key is forgotten stays as it is, and no key leads to it later. -/
  forgotten : ∀ cache key entry a p later q, o.shared.registry.get? cache key = some entry →
    a = .remove cache key ∨ a = .clear cache → o.step (.access a) = some p → p.run later = some q →
      p.shared.registry.cell entry = o.shared.registry.cell entry ∧
      (∀ other otherKey, q.shared.registry.get? other otherKey ≠ some entry) ∧
      ∀ new, q.shared.registry.get? cache key = some new → new ≠ entry
  /-- A slot that is made is a fresh one, of which nobody knows. -/
  anew : ∀ cache key, o.shared.registry.get? cache key = none →
    let (new, r) := o.shared.registry.getOrAdd cache key
    r.cell new = .fresh ∧ (r.slot new).canClaim = true ∧ new ∉ o.references ∧
      ∀ h ∈ o.shared.held, h.claim.entry ≠ new

theorem isolated_run {caches : Nat} (ran : (start caches).run past = some o) : Isolated past o := by
  have sound : o.shared.Sound := sound_run ran
  have orderly := orderly_run (Registry.orderly_empty caches) ran
  refine ⟨?_, ?_, ?_, ?_, ?_, ?_, ?_⟩
  · intro entry
    exact (follows_run (Shared.sound_start caches) ran).1 entry
  · intro d p entry operation done operated
    exact holds_of_operation done operated
  · intro d p entry done there
    exact reference_cases done there
  · intro a p h done holds
    obtain ⟨warranted, stepped, -⟩ := step_access done
    rcases Shared.held_step stepped holds with old | rfl
    · exact .inl old
    · exact .inr ⟨rfl, warranted _ rfl⟩
  · intro cache key cache' key' entry found also
    exact orderly.separate.key_unique found also
  · intro cache key entry a p later q found forgets done on
    have lost : p.shared.registry = (o.shared.registry.remove cache key).2 ∨
        p.shared.registry = o.shared.registry.clear cache := by
      have stepped := (step_access done).2.1
      refine forgets.imp ?_ ?_
      all_goals
        rintro rfl
        rw [← Option.some.inj stepped]
    obtain ⟨unlisted, same⟩ := orderly.separate.not_listed_of_forgotten found lost
    have made := Nat.lt_of_lt_of_le (orderly.closed.get?_lt found) (length_step done)
    have gone := Registry.get?_ne_of_not_listed (not_listed_run made unlisted on).1
    refine ⟨same, gone, ?_⟩
    rintro new leads rfl
    exact gone cache key leads
  · intro cache key missing
    have new : (o.shared.registry.getOrAdd cache key).1 = o.shared.registry.cells.length := by
      rw [Registry.getOrAdd, missing]
    have fresh : (o.shared.registry.getOrAdd cache key).2.cell o.shared.registry.cells.length = .fresh := by
      rw [Registry.cell_getOrAdd, Registry.cell, List.getElem?_eq_none (Nat.le_refl _)]
      rfl
    dsimp only
    rw [new]
    refine ⟨fresh, ?_, ?_, ?_⟩
    · rw [Registry.slot, fresh]
      rfl
    · exact fun there => Nat.lt_irrefl _ (references_made_run ran _ there)
    · exact fun h holds => Nat.ne_of_lt (sound.inside h holds)

end Owned

end ChannelFeed.Cache
