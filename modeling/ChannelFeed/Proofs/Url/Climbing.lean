import Mathlib.Data.List.DropRight
import ChannelFeed.Proofs.Http.Exchanges
import ChannelFeed.Proofs.Url.Endpoints
import ChannelFeed.Request

/-!
# The way out of the base

Two dots are refused as a segment, but tabs and line breaks are dropped from a segment only after that. So a segment
that comes to be two dots in this way leads above the path of the base URL, and no other one does. Main statement:
`endpoint_leaves_base_iff`.
-/

namespace ChannelFeed

namespace Url

variable {segments front path : List (List Char)} {segment last : List Char}

/-- A path less all the slashes at its end. -/
def stem (segments : List (List Char)) : List (List Char) := segments.rdropWhile (· = [])

/-- A segment takes away the last segment of a path: it comes to be two dots when something is dropped, and the path has
a segment that can be taken away, with no more than one slash behind it. -/
structure Climbs (segments : List (List Char)) (segment : List Char) : Prop where
  unnoticed : segment ≠ ['.', '.']
  dots : kept segment = ['.', '.']
  below : stem segments ≠ []
  single : segments = stem segments ∨ segments = stem segments ++ [[]]
  /-- A drive letter stays. -/
  removable : ∀ last ∈ (stem segments).getLast?, beginsWithDriveLetter last = false

theorem stem_closed : stem (front ++ [[]]) = stem front := List.rdropWhile_concat_pos _ _ _ (decide_eq_true rfl)

theorem stem_open (nonempty : last ≠ []) : stem (front ++ [last]) = front ++ [last] :=
  List.rdropWhile_concat_neg _ _ _ fun empty => nonempty (of_decide_eq_true empty)

theorem stem_begins (segments : List (List Char)) : stem segments <+: segments := List.rdropWhile_prefix _ _

theorem stem_withoutTrailingSlash (segments : List (List Char)) :
    stem (withoutTrailingSlash segments) = stem segments := by
  unfold withoutTrailingSlash
  split
  · next closed =>
    obtain ⟨front, rfl⟩ := List.getLast?_eq_some_iff.mp closed.2
    rw [List.dropLast_concat, stem_closed]
  · rfl

theorem stem_ground (segments : List (List Char)) : stem (ground segments) = stem segments := by
  rw [← stem_withoutTrailingSlash segments, ground]
  split
  · next root =>
    rw [root]
    rfl
  · rfl

theorem not_begins_longer : ¬ front ++ [last] <+: front := by
  intro longer
  have length := longer.length_le
  rw [List.length_append, List.length_singleton] at length
  omega

theorem ground_eq_stem_iff (below : stem segments ≠ []) :
    ground segments = stem segments ↔ segments = stem segments ∨ segments = stem segments ++ [[]] := by
  rcases List.eq_nil_or_concat' segments with rfl | ⟨front, last, rfl⟩
  · exact absurd rfl below
  · by_cases empty : last = []
    · subst empty
      rw [stem_closed] at below ⊢
      have nonempty : front ≠ [] := by
        rintro rfl
        exact below rfl
      have noRoot : front ≠ [[]] := by
        rintro rfl
        exact below rfl
      rw [ground, withoutTrailingSlash_closed nonempty, if_neg noRoot]
      constructor
      · intro same
        exact .inr (congrArg (· ++ [[]]) same)
      · rintro (same | same)
        · exact absurd (same ▸ stem_begins front) not_begins_longer
        · exact List.append_cancel_right same
    · have noRoot : front ++ [last] ≠ [[]] := by
        intro root
        rw [root] at below
        exact below rfl
      rw [stem_open empty, ground, withoutTrailingSlash_open empty, if_neg noRoot]
      exact iff_of_true rfl (.inl rfl)

theorem parent_concat : parent (front ++ [last]) = if beginsWithDriveLetter last then front ++ [last] else front := by
  rw [parent, List.getLast?_concat, List.dropLast_concat]

/-- What is above a path still begins with its stem, unless the last segment of the stem was taken away. -/
theorem stem_prefix_parent_iff :
    stem segments <+: parent segments ++ [[]] ↔
      ¬ (stem segments ≠ [] ∧ segments = stem segments ∧
        ∀ last ∈ (stem segments).getLast?, beginsWithDriveLetter last = false) := by
  rcases List.eq_nil_or_concat' segments with rfl | ⟨front, last, rfl⟩
  · exact iff_of_true List.nil_prefix fun ⟨nonempty, _⟩ => nonempty rfl
  · by_cases empty : last = []
    · subst empty
      rw [stem_closed, parent_concat, if_neg (show ¬ beginsWithDriveLetter [] = true from Bool.false_ne_true)]
      refine iff_of_true ((stem_begins front).trans (List.prefix_append _ _)) ?_
      rintro ⟨-, same, -⟩
      exact not_begins_longer (same ▸ stem_begins front)
    · rw [stem_open empty, parent_concat]
      cases drive : beginsWithDriveLetter last with
      | true =>
        refine iff_of_true (List.prefix_append _ _) ?_
        rintro ⟨-, -, removable⟩
        cases drive.symm.trans (removable last List.getLast?_concat)
      | false =>
        refine iff_of_false ?_ fun stays => stays ⟨List.concat_ne_nil _ _, rfl, ?_⟩
        · rw [if_neg Bool.false_ne_true, List.prefix_append_right_inj]
          intro same
          exact empty (List.cons_prefix_cons.mp same).1
        · intro other there
          rw [List.getLast?_concat] at there
          exact Option.some.inj there ▸ drive

theorem Pushed.stem_prefix_iff (pushed : Pushed segments segment path) :
    stem segments <+: path ↔ ¬ Climbs segments segment := by
  have onGround : stem segments <+: ground segments := stem_ground segments ▸ stem_begins _
  cases pushed with
  | dots given =>
    refine iff_of_true (stem_withoutTrailingSlash segments ▸ stem_begins _) fun climbs => ?_
    rcases given with rfl | rfl
    · exact absurd climbs.dots (by decide)
    · exact climbs.unnoticed rfl
  | climbed given dots =>
    rw [← stem_ground, stem_prefix_parent_iff, stem_ground]
    refine not_congr ⟨fun ⟨below, single, removable⟩ => ?_, fun climbs => ?_⟩
    · exact ⟨mt .inr given, dots, below, (ground_eq_stem_iff below).mp single, removable⟩
    · exact ⟨climbs.below, (ground_eq_stem_iff climbs.below).mpr climbs.single, climbs.removable⟩
  | stayed given dot =>
    refine iff_of_true (onGround.trans (List.prefix_append _ _)) fun climbs => ?_
    cases dot.symm.trans climbs.dots
  | added noDots noDot =>
    exact iff_of_true (onGround.trans (List.prefix_append _ _)) fun climbs => noDots climbs.dots

theorem Pushed.of_climbs (pushed : Pushed segments segment path) (climbs : Climbs segments segment) :
    path = (stem segments).dropLast ++ [[]] := by
  obtain ⟨unnoticed, dots, below, single, removable⟩ := climbs
  cases pushed with
  | dots given =>
    rcases given with rfl | rfl
    · exact absurd dots (by decide)
    · exact absurd rfl unnoticed
  | climbed =>
    rw [(ground_eq_stem_iff below).mpr single]
    obtain ⟨front, last, is⟩ := (List.eq_nil_or_concat' _).resolve_left below
    rw [is] at removable ⊢
    rw [parent_concat, removable last List.getLast?_concat, if_neg Bool.false_ne_true, List.dropLast_concat]
  | stayed given dot => cases dot.symm.trans dots
  | added noDots => exact absurd dots noDots

end Url

open Url

/-- Whatever the segment, a resource is on the host of the base URL, and below its path unless the segment takes a
segment of that path away; then it is the directory above. What is requested is the resource. -/
theorem endpoint_leaves_base_iff {base : BaseUrl} (web : base.url.IsWeb) (segment : String) :
    SameButPath base.url (base.endpoint segment) ∧
      (¬ stem base.url.path.list <+: (base.endpoint segment).path.list ↔
        Climbs base.url.path.list segment.toList) ∧
      (Climbs base.url.path.list segment.toList →
        (base.endpoint segment).path.list = (stem base.url.path.list).dropLast ++ [[]]) ∧
      ∀ limit net, ∃ outcome,
        Http.Exchanged net (base.endpoint segment) limit outcome (Client.getJson ⟨base, limit⟩ segment net).2 := by
  have pushed := pushed_endpoint web segment
  exact ⟨rfl, not_iff_comm.mp pushed.stem_prefix_iff.symm, pushed.of_climbs,
    fun limit net => ⟨_, Http.exchanged net _ limit⟩⟩

open BelowRoot

/-- Two dots with a tab between them. -/
def BelowRoot.dots : String := ".\t."

/-- The directory above a service is reached. -/
theorem endpoint_leaves_service :
    (service [['a']]).url.IsWeb ∧ Climbs [['a']] dots.toList ∧ ((service [['a']]).endpoint dots).path.list = [[]] := by
  have climbs : Climbs [['a']] dots.toList := ⟨by decide, by decide, by decide, .inl rfl, by decide⟩
  exact ⟨.inl rfl, climbs, (endpoint_leaves_base_iff (.inl rfl) dots).2.2.1 climbs⟩

/-- An accepted base URL does not keep every segment below it. -/
theorem endpoint_can_leave_base :
    BaseUrl.parse address = .ok (service [['a']]) ∧ (service [['a']]).url.IsWeb ∧
      ((service [['a']]).endpoint dots).text = "http://u:p@[::1]:8025/?q#f" ∧
      ¬ stem (service [['a']]).url.path.list <+: ((service [['a']]).endpoint dots).path.list :=
  ⟨parse_address, .inl rfl, rfl, by decide⟩

end ChannelFeed
