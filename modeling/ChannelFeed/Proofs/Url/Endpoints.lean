import Mathlib.Data.List.Basic
import ChannelFeed.Endpoint
import ChannelFeed.Proofs.Url.Paths

/-!
# Where resources are

A resource is named by one segment, which is added to the path of the base URL. What is added stands for the segment
byte by byte, and everything else is as in the base. Main statement: `endpoint_adds_one_segment`.
-/

namespace ChannelFeed

namespace Url

variable {segments front : List (List Char)} {segment last : List Char}

/-- The scheme of the web, plain or secured. -/
def IsWeb (u : Url) : Prop := u.scheme = "http".toList ∨ u.scheme = "https".toList

/-- Nothing but the path differs: scheme, user, host, port, query and fragment are the same. -/
def SameButPath (u v : Url) : Prop := { u with path := v.path } = v

/-- A path less one slash at its end. If only a slash is left, nothing is. -/
def withoutSlash (path : List Char) : List Char :=
  let left := if path.getLast? = some '/' then path.dropLast else path
  if left = ['/'] then [] else left

/-- The segments to which one is added. -/
def ground (segments : List (List Char)) : List (List Char) :=
  if withoutTrailingSlash segments = [[]] then [] else withoutTrailingSlash segments

theorem IsWeb.schemeKind {u : Url} (web : u.IsWeb) : schemeKind u.scheme = .special := by
  rcases web with scheme | scheme <;>
  · rw [scheme]
    decide

theorem getLast?_concat_eq_nil : (front ++ [last]).getLast? = some [] ↔ last = [] := by
  rw [List.getLast?_concat, Option.some_inj]

theorem withoutTrailingSlash_closed (more : front ≠ []) : withoutTrailingSlash (front ++ [[]]) = front := by
  have long : (front ++ [[]]).length > 1 := by
    rw [List.length_append]
    exact Nat.lt_add_of_pos_left (List.length_pos_iff.mpr more)
  rw [withoutTrailingSlash, if_pos ⟨long, List.getLast?_concat⟩, List.dropLast_concat]

theorem withoutTrailingSlash_open (nonempty : last ≠ []) :
    withoutTrailingSlash (front ++ [last]) = front ++ [last] :=
  if_neg fun closed => nonempty (getLast?_concat_eq_nil.mp closed.2)

theorem withoutTrailingSlash_ne_nil (nonempty : segments ≠ []) : withoutTrailingSlash segments ≠ [] := by
  unfold withoutTrailingSlash
  split
  · next closed =>
    intro none
    have length := congrArg List.length none
    rw [List.length_dropLast, List.length_nil] at length
    omega
  · exact nonempty

theorem chars_eq_root (plain : Plain segments) : (Path.listed segments).chars = ['/'] ↔ segments = [[]] := by
  refine ⟨fun root => ?_, fun root => root ▸ rfl⟩
  exact chars_injective plain (List.forall_mem_singleton.mpr List.not_mem_nil) root

/-- A segment is added behind the path of the base less one slash at its end. -/
theorem chars_ground (plain : Plain segments) (nonempty : segments ≠ []) :
    (Path.listed (ground segments)).chars = withoutSlash (Path.listed segments).chars := by
  obtain ⟨front, last, rfl⟩ := (List.eq_nil_or_concat' segments).resolve_left nonempty
  obtain ⟨plainFront, plainLast⟩ := List.forall_mem_append.mp plain
  have ended : (Path.listed (front ++ [last])).chars.getLast? = some '/' ↔ last = [] :=
    getLast?_chars (plainLast last (List.mem_singleton_self last))
  by_cases empty : last = []
  · subst empty
    have left : (Path.listed (front ++ [[]])).chars.dropLast = (Path.listed front).chars := by
      rw [chars_concat, List.dropLast_concat]
    simp only [withoutSlash, if_pos (ended.mpr rfl), left]
    by_cases more : front = []
    · subst more
      rfl
    · simp only [ground, withoutTrailingSlash_closed more, chars_eq_root plainFront]
      split <;> rfl
  · have other : front ++ [last] ≠ [[]] := by
      intro root
      have ends := congrArg List.getLast? root
      rw [List.getLast?_concat] at ends
      exact empty (Option.some_inj.mp ends)
    simp only [withoutSlash, if_neg (mt ended.mp empty), ground, withoutTrailingSlash_open empty, if_neg other,
      chars_eq_root plain]

theorem chars_withoutTrailingSlash (plain : Plain segments) (nonempty : segments ≠ []) :
    (Path.listed (withoutTrailingSlash segments)).chars =
      if withoutSlash (Path.listed segments).chars = [] then ['/'] else withoutSlash (Path.listed segments).chars := by
  have stays := withoutTrailingSlash_ne_nil nonempty
  rw [← chars_ground plain nonempty, ground]
  generalize withoutTrailingSlash segments = path at stays
  split
  · next root =>
    subst root
    rfl
  · next other =>
    rw [if_neg]
    intro none
    cases path with
    | nil => exact stays rfl
    | cons s path => cases none

/-- What is left of a segment when tabs and line breaks are dropped. -/
def kept (segment : List Char) : List Char := segment.filter (!isBreak ·)

theorem kept_eq (unbroken : ∀ c ∈ segment, isBreak c = false) : kept segment = segment := by
  refine List.filter_eq_self.mpr fun c there => ?_
  rw [unbroken c there]
  rfl

theorem percentDecode_encodeSegment : percentDecode (encodeSegment .special segment) = Utf8.encode (kept segment) :=
  percentDecode_percentEncode (by decide) _

theorem not_mem_encodeSegment {c : Char} (parts : c ∈ ['/', '\\', '?', '#']) :
    c ∉ encodeSegment .special segment := by
  have encoded : ['/', '\\', '?', '#'].all EncodeSet.specialSegment.contains = true := by decide
  exact not_mem_percentEncode parts fun _ => List.all_eq_true.mp encoded c parts

theorem isDoubleDot_encodeSegment : isDoubleDot (encodeSegment .special segment) = true ↔ kept segment = ['.', '.'] := by
  refine ⟨eq_dots_of_isDoubleDot (by decide), fun dots => ?_⟩
  change isDoubleDot (percentEncode .specialSegment (kept segment)) = true
  rw [dots]
  decide

theorem isDot_encodeSegment : isDot (encodeSegment .special segment) = true ↔ kept segment = ['.'] := by
  refine ⟨eq_dot_of_isDot (by decide), fun dot => ?_⟩
  change isDot (percentEncode .specialSegment (kept segment)) = true
  rw [dot]
  decide

/-- A path to which a segment is added. -/
inductive Pushed (segments : List (List Char)) (segment : List Char) : List (List Char) → Prop
  | dots (given : segment = ['.'] ∨ segment = ['.', '.']) : Pushed segments segment (withoutTrailingSlash segments)
  /-- Two dots that come out when something is dropped are not noticed as such, and take a segment away. -/
  | climbed (given : ¬ (segment = ['.'] ∨ segment = ['.', '.'])) (dots : kept segment = ['.', '.']) :
    Pushed segments segment (parent (ground segments) ++ [[]])
  | stayed (given : ¬ (segment = ['.'] ∨ segment = ['.', '.'])) (dot : kept segment = ['.']) :
    Pushed segments segment (ground segments ++ [[]])
  | added (noDots : kept segment ≠ ['.', '.']) (noDot : kept segment ≠ ['.']) :
    Pushed segments segment (ground segments ++ [encodeSegment .special segment])

theorem addSegment_special :
    addSegment .special true front segment =
      if isDoubleDot segment then parent front ++ [[]] else if isDot segment then front ++ [[]]
      else front ++ [segment] := by
  unfold addSegment
  simp only [if_true, reduceCtorEq, false_and, if_false]

theorem pushed (segments : List (List Char)) (segment : List Char) :
    Pushed segments segment (pushSegment .special (withoutTrailingSlash segments) segment) := by
  unfold pushSegment
  split
  · next given => exact .dots given
  · next given =>
    change Pushed segments segment (addSegment .special true (ground segments) (encodeSegment .special segment))
    rw [addSegment_special]
    split
    · next dots => exact .climbed given (isDoubleDot_encodeSegment.mp dots)
    · next noDots =>
      split
      · next dot => exact .stayed given (isDot_encodeSegment.mp dot)
      · next noDot => exact .added (mt isDoubleDot_encodeSegment.mpr noDots) (mt isDot_encodeSegment.mpr noDot)

end Url

open Url

/-- Segments that mean the path as it is, or the one above it. -/
def IsDots (segment : String) : Prop := segment = "." ∨ segment = ".."

/-- Nothing is dropped from a segment: it has no tab and no line break. -/
def Unbroken (segment : String) : Prop := ∀ c ∈ segment.toList, isBreak c = false

variable {base : BaseUrl} {text : String} {segment : String}

theorem isDots_iff : IsDots segment ↔ segment.toList = ['.'] ∨ segment.toList = ['.', '.'] := by
  unfold IsDots
  rw [← String.toList_inj, ← String.toList_inj]
  rfl

theorem sameButPath_endpoint (base : BaseUrl) (segment : String) : SameButPath base.url (base.endpoint segment) := rfl

theorem parse_url (parsed : BaseUrl.parse text = .ok base) : Url.parse text = .ok base.url := by
  unfold BaseUrl.parse at parsed
  split at parsed
  · cases parsed
  · next read =>
    split at parsed
    · cases parsed
      exact read
    · cases parsed

theorem path_eq (base : BaseUrl) : base.url.path = .listed base.url.path.list := by
  have segments := base.hasSegments
  unfold hasPlainPath at segments
  split at segments
  · cases segments
  · next is => rw [is, Path.list]

theorem proper_base (parsed : BaseUrl.parse text = .ok base) (web : base.url.IsWeb) :
    Plain base.url.path.list ∧ base.url.path.list ≠ [] := by
  have proper := proper_of_parse (parse_url parsed)
  refine ⟨proper.plain, proper.rooted ?_⟩
  rw [web.schemeKind]
  rfl

theorem pushed_endpoint (web : base.url.IsWeb) (segment : String) :
    Pushed base.url.path.list segment.toList (base.endpoint segment).path.list := by
  unfold BaseUrl.endpoint
  rw [web.schemeKind]
  exact pushed _ _

/-- Two URLs that differ in their paths only have different texts. -/
theorem chars_of_text {u v : Url} (same : SameButPath u v) (texts : u.text = v.text) : u.path.chars = v.path.chars := by
  rw [← same] at texts ⊢
  have chars := congrArg String.toList texts
  rw [Url.text, Url.text, String.toList_ofList, String.toList_ofList] at chars
  exact List.append_cancel_left (List.append_cancel_right chars)

/-- The resources of a service lie one segment below its base URL, each at a place of its own. A slash at the end of the
base is not counted. -/
structure OneBelow (base : BaseUrl) : Prop where
  elsewhere (segment : String) : SameButPath base.url (base.endpoint segment)
  /-- What is added does not part the URL, and stands for the segment. -/
  added {segment : String} (unbroken : Unbroken segment) (named : ¬ IsDots segment) :
    ∃ e, (base.endpoint segment).path.chars = withoutSlash base.url.path.chars ++ '/' :: e ∧
      (∀ c ∈ ['/', '\\', '?', '#'], c ∉ e) ∧ percentDecode e = segment.toUTF8.toList
  distinct {segment other : String} (unbroken : Unbroken segment) (named : ¬ IsDots segment)
    (otherUnbroken : Unbroken other) (otherNamed : ¬ IsDots other)
    (same : (base.endpoint segment).text = (base.endpoint other).text) : segment = other
  dots {segment : String} (dots : IsDots segment) :
    (base.endpoint segment).path.chars =
      if withoutSlash base.url.path.chars = [] then ['/'] else withoutSlash base.url.path.chars
  slashed {text : String} {closed : BaseUrl} (parsed : BaseUrl.parse text = .ok closed)
    (elsewhere : SameButPath base.url closed.url) (unclosed : base.url.path.chars.getLast? ≠ some '/')
    (slash : closed.url.path.chars = base.url.path.chars ++ ['/']) (segment : String) :
    closed.endpoint segment = base.endpoint segment

theorem endpoint_added (parsed : BaseUrl.parse text = .ok base) (web : base.url.IsWeb)
    (unbroken : Unbroken segment) (named : ¬ IsDots segment) :
    (base.endpoint segment).path.chars =
      withoutSlash base.url.path.chars ++ '/' :: encodeSegment .special segment.toList := by
  obtain ⟨plain, nonempty⟩ := proper_base parsed web
  have all := kept_eq unbroken
  rw [isDots_iff] at named
  rw [path_eq base, ← chars_ground plain nonempty]
  change (Path.listed (base.endpoint segment).path.list).chars = _
  have pushed := pushed_endpoint web segment
  generalize (base.endpoint segment).path.list = path at pushed
  cases pushed with
  | dots given => exact absurd given named
  | climbed given dots => exact absurd (.inr (all.symm.trans dots)) named
  | stayed given dot => exact absurd (.inl (all.symm.trans dot)) named
  | added => exact chars_concat

theorem endpoint_dots (parsed : BaseUrl.parse text = .ok base) (web : base.url.IsWeb) (dots : IsDots segment) :
    (base.endpoint segment).path.chars =
      if withoutSlash base.url.path.chars = [] then ['/'] else withoutSlash base.url.path.chars := by
  obtain ⟨plain, nonempty⟩ := proper_base parsed web
  rw [path_eq base, ← chars_withoutTrailingSlash plain nonempty]
  exact congrArg Path.chars (congrArg Path.listed (if_pos (isDots_iff.mp dots)))

theorem endpoint_slashed {other : String} {closed : BaseUrl} (parsed : BaseUrl.parse text = .ok base)
    (web : base.url.IsWeb) (also : BaseUrl.parse other = .ok closed) (elsewhere : SameButPath base.url closed.url)
    (unclosed : base.url.path.chars.getLast? ≠ some '/')
    (slash : closed.url.path.chars = base.url.path.chars ++ ['/']) (segment : String) :
    closed.endpoint segment = base.endpoint segment := by
  have scheme : closed.url.scheme = base.url.scheme := by rw [← elsewhere]
  obtain ⟨plain, nonempty⟩ := proper_base parsed web
  obtain ⟨plainClosed, -⟩ := proper_base also (show closed.url.IsWeb by rwa [IsWeb, scheme])
  rw [path_eq base, path_eq closed, ← chars_concat] at slash
  have list := chars_injective plainClosed (plain.append (List.forall_mem_singleton.mpr List.not_mem_nil)) slash
  have trunk : withoutTrailingSlash base.url.path.list = base.url.path.list := by
    obtain ⟨front, last, is⟩ := (List.eq_nil_or_concat' _).resolve_left nonempty
    rw [path_eq base, is] at unclosed
    rw [is] at plain ⊢
    refine withoutTrailingSlash_open fun empty => unclosed ?_
    exact (getLast?_chars (plain last (List.mem_append_right _ (List.mem_singleton_self _)))).mpr empty
  unfold BaseUrl.endpoint
  rw [list, withoutTrailingSlash_closed nonempty, trunk, ← elsewhere]

/-- One segment is added to the base URL, which is itself a value that no request changes. -/
theorem endpoint_adds_one_segment (parsed : BaseUrl.parse text = .ok base) (web : base.url.IsWeb) :
    OneBelow base where
  elsewhere := sameButPath_endpoint base
  added unbroken named := by
    refine ⟨_, endpoint_added parsed web unbroken named, fun c => not_mem_encodeSegment, ?_⟩
    rw [percentDecode_encodeSegment, kept_eq unbroken, Utf8.toUTF8_toList]
  distinct {segment other} unbroken named otherUnbroken otherNamed same := by
    have paths := chars_of_text (show SameButPath (base.endpoint segment) (base.endpoint other) from rfl) same
    rw [endpoint_added parsed web unbroken named, endpoint_added parsed web otherUnbroken otherNamed,
      List.append_cancel_left_eq, List.cons_inj_right] at paths
    have bytes := congrArg percentDecode paths
    rw [percentDecode_encodeSegment, percentDecode_encodeSegment, kept_eq unbroken, kept_eq otherUnbroken] at bytes
    exact String.toList_inj.mp (Utf8.encode_injective bytes)
  dots := endpoint_dots parsed web
  slashed := endpoint_slashed parsed web

namespace BelowRoot

/-- A service with everything that a base URL can have. -/
def service (segments : List (List Char)) : BaseUrl :=
  ⟨⟨"http".toList, some ⟨"u".toList, "p".toList, .ipv6 [0, 0, 0, 0, 0, 0, 0, 1], some 8025⟩, false, .listed segments,
    some "q".toList, some "f".toList⟩, rfl⟩

def address : String := "http://u:p@[::1]:8025/a?q#f"

def closedAddress : String := "http://u:p@[::1]:8025/a/?q#f"

theorem parse_address : BaseUrl.parse address = .ok (service [['a']]) := by
  have parsed : Url.parse address = .ok (service [['a']]).url := rfl
  simp only [BaseUrl.parse, parsed]
  rfl

theorem parse_closedAddress : BaseUrl.parse closedAddress = .ok (service [['a'], []]) := by
  have parsed : Url.parse closedAddress = .ok (service [['a'], []]).url := rfl
  simp only [BaseUrl.parse, parsed]
  rfl

end BelowRoot

open BelowRoot in
/-- A slash in a segment is encoded, and one at the end of the base makes no difference. -/
theorem endpoints_below_root :
    BaseUrl.parse address = .ok (service [['a']]) ∧ OneBelow (service [['a']]) ∧
      ((service [['a']]).endpoint "x/y").text = "http://u:p@[::1]:8025/a/x%2Fy?q#f" ∧
      ∀ segment, (service [['a'], []]).endpoint segment = (service [['a']]).endpoint segment := by
  have below := endpoint_adds_one_segment parse_address (.inl rfl)
  exact ⟨parse_address, below, rfl, below.slashed parse_closedAddress rfl (by decide) rfl⟩

end ChannelFeed
