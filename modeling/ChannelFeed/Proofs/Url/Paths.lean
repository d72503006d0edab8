import ChannelFeed.Proofs.Url.Percent
import ChannelFeed.Url.Parser

/-!
# Paths that were read

A path is a list of segments, and a text in which a slash stands in front of each of them. The text determines the list
as long as no segment holds a slash itself, and that is so of every URL that was read.
-/

namespace ChannelFeed.Url

/-- No segment holds a slash. -/
def Plain (segments : List (List Char)) : Prop := ∀ s ∈ segments, '/' ∉ s

variable {kind : SchemeKind} {isLast : Bool} {a b done segments rest : List (List Char)} {s segment : List Char}

theorem Plain.nil : Plain [] := fun _ none => absurd none List.not_mem_nil

theorem plain_cons : Plain (s :: segments) ↔ '/' ∉ s ∧ Plain segments := List.forall_mem_cons

theorem Plain.append (front : Plain a) (back : Plain b) : Plain (a ++ b) := List.forall_mem_append.mpr ⟨front, back⟩

theorem Plain.sub (plain : Plain b) (sub : a ⊆ b) : Plain a := fun s there => plain s (sub there)

theorem chars_cons : (Path.listed (s :: segments)).chars = '/' :: s ++ (Path.listed segments).chars := List.flatMap_cons

theorem chars_append : (Path.listed (a ++ b)).chars = (Path.listed a).chars ++ (Path.listed b).chars :=
  List.flatMap_append

theorem takeWhile_segment (plain : '/' ∉ s) : (s ++ (Path.listed segments).chars).takeWhile (· ≠ '/') = s := by
  have inside : ∀ c ∈ s, decide (c ≠ '/') = true := by
    intro c there
    refine decide_eq_true ?_
    rintro rfl
    exact plain there
  rw [List.takeWhile_append_of_pos inside]
  cases segments with
  | nil => exact List.append_nil s
  | cons t segments =>
    rw [chars_cons]
    exact List.append_nil s

theorem chars_injective (first : Plain a) (second : Plain b)
    (same : (Path.listed a).chars = (Path.listed b).chars) : a = b := by
  induction a generalizing b with
  | nil =>
    cases b with
    | nil => rfl
    | cons t b => cases same
  | cons s a ih =>
    cases b with
    | nil => cases same
    | cons t b =>
      obtain ⟨plainFirst, restFirst⟩ := plain_cons.mp first
      obtain ⟨plainSecond, restSecond⟩ := plain_cons.mp second
      rw [chars_cons, chars_cons, List.cons_append, List.cons_append, List.cons_inj_right] at same
      have heads := congrArg (List.takeWhile (· ≠ '/')) same
      rw [takeWhile_segment plainFirst, takeWhile_segment plainSecond] at heads
      subst heads
      rw [ih restFirst restSecond (List.append_cancel_left same)]

theorem chars_concat : (Path.listed (segments ++ [s])).chars = (Path.listed segments).chars ++ '/' :: s := by
  rw [chars_append, chars_cons]
  exact congrArg _ (List.append_nil _)

theorem getLast?_chars (plain : '/' ∉ s) : (Path.listed (segments ++ [s])).chars.getLast? = some '/' ↔ s = [] := by
  rw [chars_concat, List.getLast?_append, List.getLast?_cons, Option.some_or, Option.some_inj]
  constructor
  · intro last
    refine Classical.byContradiction fun nonempty => plain ?_
    rw [List.getLast?_eq_some_getLast nonempty, Option.getD_some] at last
    exact last ▸ List.getLast_mem nonempty
  · rintro rfl
    rfl

theorem parent_sub : parent segments ⊆ segments := by
  intro s there
  unfold parent at there
  split at there
  · split at there
    · exact there
    · exact List.dropLast_subset _ there
  · cases there

theorem plain_closed (plain : Plain segments) : Plain (if isLast then segments ++ [[]] else segments) := by
  split
  · exact plain.append (List.forall_mem_singleton.mpr List.not_mem_nil)
  · exact plain

theorem plain_addSegment (plain : Plain done) (noSlash : '/' ∉ segment) :
    Plain (addSegment kind isLast done segment) := by
  unfold addSegment
  dsimp only
  split
  · exact plain_closed (plain.sub parent_sub)
  · split
    · exact plain_closed plain
    · split
      · refine List.forall_mem_singleton.mpr fun there => ?_
        rcases List.mem_append.mp there with there | there
        · exact noSlash (List.mem_of_mem_take there)
        · exact absurd there (by decide)
      · exact plain.append (List.forall_mem_singleton.mpr noSlash)

theorem addSegment_ne_nil : addSegment kind true done segment ≠ [] := by
  unfold addSegment
  dsimp only
  split
  · exact List.append_ne_nil_of_right_ne_nil _ (List.cons_ne_nil _ _)
  · split
    · exact List.append_ne_nil_of_right_ne_nil _ (List.cons_ne_nil _ _)
    · split
      · exact List.cons_ne_nil _ _
      · exact List.append_ne_nil_of_right_ne_nil _ (List.cons_ne_nil _ _)

theorem plain_addSegments (plain : Plain done) (more : Plain segments) : Plain (addSegments kind done segments) := by
  fun_induction addSegments kind done segments with
  | case1 done => exact plain
  | case2 done last => exact plain_addSegment plain (plain_cons.mp more).1
  | case3 done segment rest _ ih =>
    obtain ⟨noSlash, more⟩ := plain_cons.mp more
    exact ih (plain_addSegment plain noSlash) more

theorem addSegments_ne_nil (nonempty : segments ≠ []) : addSegments kind done segments ≠ [] := by
  fun_induction addSegments kind done segments with
  | case1 => contradiction
  | case2 => exact addSegment_ne_nil
  | case3 done segment rest another ih => exact ih another

theorem withoutLeadingEmpty_sub : withoutLeadingEmpty segments ⊆ segments := by
  fun_induction withoutLeadingEmpty segments with
  | case1 next rest ih => exact fun _ there => List.mem_cons_of_mem _ (ih there)
  | case2 => exact fun _ there => there

theorem withoutLeadingEmpty_ne_nil (nonempty : segments ≠ []) : withoutLeadingEmpty segments ≠ [] := by
  fun_induction withoutLeadingEmpty segments with
  | case1 next rest ih => exact ih (List.cons_ne_nil _ _)
  | case2 => exact nonempty

theorem plain_tidy (plain : Plain segments) : Plain (tidy kind segments) := by
  unfold tidy
  split
  · exact plain.sub withoutLeadingEmpty_sub
  · exact plain

theorem tidy_ne_nil (nonempty : segments ≠ []) : tidy kind segments ≠ [] := by
  unfold tidy
  split
  · exact withoutLeadingEmpty_ne_nil nonempty
  · exact nonempty

theorem pieces_ne_nil (isSeparator : Char → Bool) (cs : List Char) : CodeRanges.pieces isSeparator cs ≠ [] := by
  cases cs with
  | nil => exact List.cons_ne_nil _ _
  | cons c cs =>
    rw [CodeRanges.pieces, List.foldr_cons]
    split
    · exact List.cons_ne_nil _ _
    · split <;> exact List.cons_ne_nil _ _

theorem not_mem_piece {isSeparator : Char → Bool} {c : Char} (separates : isSeparator c = true) (cs : List Char) :
    ∀ piece ∈ CodeRanges.pieces isSeparator cs, c ∉ piece := by
  induction cs with
  | nil => exact List.forall_mem_singleton.mpr List.not_mem_nil
  | cons d cs ih =>
    rw [CodeRanges.pieces] at ih ⊢
    rw [List.foldr_cons]
    split
    · exact List.forall_mem_cons.mpr ⟨List.not_mem_nil, ih⟩
    · next kept =>
      have other : c ≠ d := by
        rintro rfl
        exact kept separates
      split
      · exact List.forall_mem_singleton.mpr (List.not_mem_cons_of_ne_of_not_mem other List.not_mem_nil)
      · next piece rest is =>
        rw [is] at ih
        obtain ⟨first, ih⟩ := List.forall_mem_cons.mp ih
        exact List.forall_mem_cons.mpr ⟨List.not_mem_cons_of_ne_of_not_mem other first, ih⟩

theorem plain_pathSegments (kind : SchemeKind) (text : List Char) : Plain (pathSegments kind text) := by
  intro s there
  obtain ⟨piece, inside, rfl⟩ := List.mem_map.mp there
  have noSlash := not_mem_piece (show isSlash kind '/' = true from rfl) text piece inside
  exact not_mem_percentEncode (by decide) fun there => absurd there noSlash

theorem pathSegments_ne_nil (kind : SchemeKind) (text : List Char) : pathSegments kind text ≠ [] :=
  fun none => pieces_ne_nil _ _ (List.map_eq_nil_iff.mp none)

/-- A URL as it can be read: its segments hold no slash, and if its scheme is known, it has at least the root. -/
structure Proper (u : Url) : Prop where
  plain : Plain u.path.list
  rooted : (schemeKind u.scheme).isKnown = true → u.path.list ≠ []

variable {scheme text : List Char} {authority : Option Authority} {u : Url}

theorem proper_finish (plain : Plain done) : Proper (finish scheme authority done text) where
  plain := plain_tidy (plain_addSegments plain (plain_pathSegments _ _))
  rooted _ := tidy_ne_nil (addSegments_ne_nil (pathSegments_ne_nil _ _))

theorem proper_of_unknown {guarded : Bool} {path : Path} {query fragment : Option (List Char)}
    (unknown : ¬ (schemeKind scheme).isKnown = true) (empty : path.list = []) :
    Proper ⟨scheme, authority, guarded, path, query, fragment⟩ where
  plain := by
    change Plain path.list
    rw [empty]
    exact .nil
  rooted known := absurd known unknown

theorem proper_finishAuthority {authority : Authority} : Proper (finishAuthority scheme authority text) := by
  unfold finishAuthority
  dsimp only
  split
  · split
    · exact proper_finish .nil
    · split
      · next unknown => exact proper_of_unknown (by simpa using unknown.2) rfl
      · exact proper_finish .nil
  · split
    · exact proper_finish .nil
    · next unknown => exact proper_of_unknown unknown rfl

theorem proper_of_readBehindSlashes (read : readBehindSlashes scheme text = .ok u) : Proper u := by
  unfold readBehindSlashes at read
  dsimp only at read
  cases authority : readAuthority scheme (text.takeWhile (!endsAuthority (schemeKind scheme) ·))
      (text.dropWhile (!endsAuthority (schemeKind scheme) ·)).isEmpty with
  | error fault =>
    rw [authority] at read
    cases read
  | ok found =>
    rw [authority] at read
    cases read
    exact proper_finishAuthority

theorem proper_of_readFileHost (read : readFileHost text = .ok u) : Proper u := by
  unfold readFileHost at read
  dsimp only at read
  split at read
  · cases read
    exact proper_finish .nil
  · split at read
    · cases read
      exact proper_finish .nil
    · cases host : Host.ofText (text.takeWhile fun c => !endsAuthority .file c) with
      | error fault =>
        rw [host] at read
        cases read
      | ok host' =>
        rw [host] at read
        change (if _ then _ else _) = _ at read
        split at read
        · cases read
          exact proper_finish .nil
        · cases read
          exact proper_finish .nil

theorem proper_of_readFile (read : readFile none text = .ok u) : Proper u := by
  unfold readFile at read
  dsimp only at read
  split at read
  · split at read
    · split at read
      · split at read
        · exact proper_of_readFileHost read
        · cases read
          exact proper_finish .nil
      · cases read
        exact proper_finish .nil
    · cases read
      exact proper_finish .nil
  · cases read
    exact proper_finish .nil

theorem proper_of_readScheme (read : readScheme scheme none text = .ok u) : Proper u := by
  unfold readScheme at read
  dsimp only [Option.filter] at read
  split at read
  · exact proper_of_readFile read
  · exact proper_of_readBehindSlashes read
  · next other =>
    split at read
    · exact proper_of_readBehindSlashes read
    · cases read
      exact proper_finish .nil
    · cases read
      refine proper_of_unknown ?_ rfl
      rw [other]
      exact Bool.false_ne_true

theorem proper_of_parse {text : String} (read : parse text = .ok u) : Proper u := by
  unfold parse parseWith at read
  dsimp only at read
  split at read
  · exact proper_of_readScheme read
  · cases read
  · contradiction

end ChannelFeed.Url
