import ChannelFeed.Cache.Registry
import Mathlib.Data.Finmap

/-!
# Tables

A cache as one who is alone with it sees it: a finite map from keys to slots, in which a slot is made for a key when the
key is asked for and leads to nothing. A slot that is made is another one than any that was made before. So a key leads to
one slot from one removal of it to the next, a slot whose key was removed never comes back, and keys do not share slots.
-/
namespace ChannelFeed.Cache

/-- What is asked of the keys of a cache. -/
inductive Query where
  /-- The slot of a key, which is made if there is none. -/
  | entry (key : String)
  | get (key : String)
  | remove (key : String)
  | clear
  | size
deriving DecidableEq

inductive Response where
  | entry (entry : EntryId)
  | found (entry : Option EntryId)
  | flag (known : Bool)
  | done
  | size (n : Nat)
deriving DecidableEq

abbrev Effect := Query × Response

namespace Query

/-- Whether the slot of a key is asked for. -/
def asksFor (key : String) : Query → Bool
  | .entry other | .get other => other == key
  | _ => false

/-- Whether a key is removed, alone or with all others. -/
def removes (key : String) : Query → Bool
  | .remove other => other == key
  | .clear => true
  | _ => false

end Query

/-- A slot is handed out for a key. -/
inductive Effect.Hands (key : String) (entry : EntryId) : Effect → Prop where
  | entry : Hands key entry (.entry key, .entry entry)
  | get : Hands key entry (.get key, .found (some entry))

/-- The keys of a cache and the slots they lead to, and all slots that were ever made for it. -/
structure Table where
  keys : Finmap fun _ : String => EntryId
  made : Finset EntryId

namespace Table

def empty : Table := ⟨∅, ∅⟩

/-- A table gives a response, and what becomes of it. -/
inductive Gives : Table → Effect → Table → Prop where
  | known {t : Table} {key : String} {entry : EntryId} : t.keys.lookup key = some entry →
    Gives t (.entry key, .entry entry) t
  | new {t : Table} {key : String} {entry : EntryId} : t.keys.lookup key = none → entry ∉ t.made →
    Gives t (.entry key, .entry entry) ⟨t.keys.insert key entry, insert entry t.made⟩
  | get {t : Table} {key : String} {found : Option EntryId} : t.keys.lookup key = found →
    Gives t (.get key, .found found) t
  | remove {t : Table} (key : String) :
    Gives t (.remove key, .flag (t.keys.lookup key).isSome) { t with keys := t.keys.erase key }
  | clear {t : Table} : Gives t (.clear, .done) { t with keys := ∅ }
  | size {t : Table} : Gives t (.size, .size t.keys.keys.card) t

/-- Queries are put to an empty table one after the other, the newest of which comes first in the list. -/
inductive Runs : List Effect → Table → Prop where
  | start : Runs [] empty
  | next {past : List Effect} {t t' : Table} {x : Effect} : Runs past t → Gives t x t' → Runs (x :: past) t'

variable {t t' : Table} {x y : Effect} {past : List Effect} {key key' : String} {entry : EntryId}

theorem Runs.earlier {later : List Effect} (runs : Runs (later ++ past) t) : ∃ t, Runs past t := by
  induction later generalizing t with
  | nil => exact ⟨t, runs⟩
  | cons x later ih =>
    cases runs with
    | next before => exact ih before

namespace Gives

theorem lookup_of_hands (gives : Gives t x t') (hands : x.Hands key entry) : t'.keys.lookup key = some entry := by
  cases hands with
  | entry =>
    cases gives with
    | known found => exact found
    | new => exact Finmap.lookup_insert _
  | get =>
    cases gives with
    | get found => exact found

/-- A key that leads to a slot led to it before, or the slot was made for it. -/
theorem lookup_before (gives : Gives t x t') (found : t'.keys.lookup key = some entry) :
    t.keys.lookup key = some entry ∨ x.Hands key entry ∧ entry ∉ t.made := by
  cases gives with
  | @new asked other missing fresh =>
    by_cases same : key = asked
    · subst same
      rw [Finmap.lookup_insert] at found
      cases found
      exact .inr ⟨.entry, fresh⟩
    · exact .inl ((Finmap.lookup_insert_of_ne _ same).symm.trans found)
  | remove other =>
    by_cases same : key = other
    · subst same
      rw [Finmap.lookup_erase] at found
      cases found
    · exact .inl ((Finmap.lookup_erase_ne same).symm.trans found)
  | clear =>
    rw [Finmap.lookup_empty] at found
    cases found
  | known => exact .inl found
  | get => exact .inl found
  | size => exact .inl found

theorem lookup_removed (gives : Gives t x t') (removes : x.1.removes key = true) : t'.keys.lookup key = none := by
  cases gives with
  | remove other =>
    obtain rfl : other = key := beq_iff_eq.mp removes
    exact Finmap.lookup_erase _ _
  | clear => exact Finmap.lookup_empty _
  | _ => cases removes

/-- A key goes on to lead to its slot until it is removed, and whoever asks for it is handed that. -/
theorem lookup_kept (gives : Gives t x t') (kept : x.1.removes key = false)
    (found : t.keys.lookup key = some entry) :
    t'.keys.lookup key = some entry ∧ (x.1.asksFor key = true → x.Hands key entry) := by
  cases gives with
  | @known asked other leads =>
    refine ⟨found, fun same => ?_⟩
    obtain rfl : asked = key := beq_iff_eq.mp same
    cases leads.symm.trans found
    exact .entry
  | @new asked other missing fresh =>
    have different : key ≠ asked := by
      rintro rfl
      rw [missing] at found
      cases found
    refine ⟨(Finmap.lookup_insert_of_ne _ different).trans found, fun same => ?_⟩
    exact absurd (beq_iff_eq.mp same) different.symm
  | @get asked response leads =>
    refine ⟨found, fun same => ?_⟩
    obtain rfl : asked = key := beq_iff_eq.mp same
    cases leads.symm.trans found
    exact .get
  | remove other =>
    refine ⟨(Finmap.lookup_erase_ne ?_).trans found, fun asks => by cases asks⟩
    rintro rfl
    rw [Query.removes, beq_self_eq_true] at kept
    cases kept
  | clear => cases kept
  | size => exact ⟨found, fun asks => by cases asks⟩

theorem made_sub (gives : Gives t x t') : t.made ⊆ t'.made := by
  cases gives with
  | new => exact Finset.subset_insert _ _
  | _ => exact Finset.Subset.refl _

theorem hands_cases (gives : Gives t x t') (hands : x.Hands key entry) :
    t.keys.lookup key = some entry ∨ entry ∉ t.made ∧ entry ∈ t'.made := by
  cases hands with
  | entry =>
    cases gives with
    | known found => exact .inl found
    | new _ fresh => exact .inr ⟨fresh, Finset.mem_insert_self _ _⟩
  | get =>
    cases gives with
    | get found => exact .inl found

end Gives

/-- As long as a key is not removed, whoever asks for it is handed the slot that was handed out for it. -/
theorem Runs.same_between {between : List Effect} (runs : Runs (between ++ x :: past) t) (hands : x.Hands key entry)
    (kept : ∀ y ∈ between, y.1.removes key = false) :
    t.keys.lookup key = some entry ∧ ∀ y ∈ between, y.1.asksFor key = true → y.Hands key entry := by
  induction between generalizing t with
  | nil =>
    cases runs with
    | next before gives => exact ⟨gives.lookup_of_hands hands, fun y none => absurd none List.not_mem_nil⟩
  | cons z between ih =>
    obtain ⟨now, before⟩ := List.forall_mem_cons.mp kept
    cases runs with
    | next earlier gives =>
      obtain ⟨found, all⟩ := ih earlier before
      obtain ⟨still, asked⟩ := gives.lookup_kept now found
      exact ⟨still, List.forall_mem_cons.mpr ⟨asked, all⟩⟩

/-- What holds of a run: a slot is handed out for one key only, and keys lead to slots that were handed out. -/
structure Owns (past : List Effect) (t : Table) : Prop where
  made : ∀ x ∈ past, ∀ key entry, x.Hands key entry → entry ∈ t.made
  apart : ∀ x ∈ past, ∀ y ∈ past, ∀ key key' entry, x.Hands key entry → y.Hands key' entry → key = key'
  handed : ∀ key entry, t.keys.lookup key = some entry → ∃ x ∈ past, x.Hands key entry

theorem Owns.next (owns : Owns past t) (gives : Gives t x t') : Owns (x :: past) t' := by
  have older {y : Effect} (there : y ∈ past) {key key' : String} {entry : EntryId} (hands : x.Hands key entry)
      (also : y.Hands key' entry) : key = key' := by
    rcases gives.hands_cases hands with found | ⟨fresh, -⟩
    · obtain ⟨z, before, same⟩ := owns.handed key entry found
      exact owns.apart z before y there _ _ _ same also
    · exact absurd (owns.made y there _ _ also) fresh
  refine ⟨?_, ?_, ?_⟩
  · intro y there key entry hands
    rcases List.mem_cons.mp there with rfl | before
    · rcases gives.hands_cases hands with found | ⟨-, now⟩
      · obtain ⟨z, before, same⟩ := owns.handed key entry found
        exact gives.made_sub (owns.made z before _ _ same)
      · exact now
    · exact gives.made_sub (owns.made y before _ _ hands)
  · intro y there z also key key' entry hands hands'
    rcases List.mem_cons.mp there with rfl | before
    · rcases List.mem_cons.mp also with rfl | before'
      · cases hands <;> cases hands' <;> rfl
      · exact older before' hands hands'
    · rcases List.mem_cons.mp also with rfl | before'
      · exact (older before hands' hands).symm
      · exact owns.apart y before z before' _ _ _ hands hands'
  · intro key entry found
    rcases gives.lookup_before found with was | ⟨now, -⟩
    · obtain ⟨y, there, hands⟩ := owns.handed key entry was
      exact ⟨y, List.mem_cons_of_mem _ there, hands⟩
    · exact ⟨x, List.mem_cons_self, now⟩

theorem Runs.owns (runs : Runs past t) : Owns past t := by
  induction runs with
  | start =>
    refine ⟨fun x none => absurd none List.not_mem_nil, fun x none => absurd none List.not_mem_nil, ?_⟩
    intro key entry found
    rw [empty, Finmap.lookup_empty] at found
    cases found
  | next before gives ih => exact ih.next gives

/-- A slot that was made and that no key leads to. -/
def Gone (t : Table) (entry : EntryId) : Prop := entry ∈ t.made ∧ ∀ key, t.keys.lookup key ≠ some entry

/-- A slot that is gone does not come back, and so is not handed out. -/
theorem Gone.gives (gone : t.Gone entry) (gives : Gives t x t') : t'.Gone entry ∧ ∀ key, ¬x.Hands key entry := by
  obtain ⟨made, unled⟩ := gone
  have still (key : String) : t'.keys.lookup key ≠ some entry := fun found =>
    (gives.lookup_before found).elim (unled key) fun ⟨_, fresh⟩ => fresh made
  exact ⟨⟨gives.made_sub made, still⟩, fun key hands => still key (gives.lookup_of_hands hands)⟩

theorem Runs.gone_of_removes (runs : Runs past t) (gives : Gives t y t') (removes : y.1.removes key = true)
    (there : x ∈ past) (hands : x.Hands key entry) : t'.Gone entry := by
  have owns := runs.owns
  have made := owns.made x there _ _ hands
  refine ⟨gives.made_sub made, fun other found => ?_⟩
  rcases gives.lookup_before found with was | ⟨-, fresh⟩
  · obtain ⟨z, before, also⟩ := owns.handed _ _ was
    obtain rfl := owns.apart z before x there _ _ _ also hands
    rw [gives.lookup_removed removes] at found
    cases found
  · exact fresh made

/-- A slot that was handed out for a key is not handed out again once the key is removed. -/
theorem Runs.never_again {later : List Effect} (runs : Runs (later ++ y :: past) t) (removes : y.1.removes key = true)
    (there : x ∈ past) (hands : x.Hands key entry) : t.Gone entry ∧ ∀ z ∈ later, ∀ key', ¬z.Hands key' entry := by
  induction later generalizing t with
  | nil =>
    cases runs with
    | next before gives =>
      exact ⟨before.gone_of_removes gives removes there hands, fun z none => absurd none List.not_mem_nil⟩
  | cons z later ih =>
    cases runs with
    | next before gives =>
      obtain ⟨gone, all⟩ := ih before
      obtain ⟨still, now⟩ := gone.gives gives
      exact ⟨still, List.forall_mem_cons.mpr ⟨now, all⟩⟩

end Table

end ChannelFeed.Cache
