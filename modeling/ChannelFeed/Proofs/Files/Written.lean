import ChannelFeed.Files.Tree
import ChannelFeed.Proofs.Json.Reads

/-!
# Files that were written

What was written to a file is read from it. Main statement: `read_of_write`.
-/

namespace ChannelFeed.Files.Tree

variable {t t' : Tree} {here there place : Place} {node : Node} {name path : String} {names : List String}
  {bytes : List UInt8}

theorem lookup_filter {nodes : List (Place × Node)} (other : there ≠ place) :
    (nodes.filter (·.1 ≠ place)).lookup there = nodes.lookup there := by
  induction nodes with
  | nil => rfl
  | cons entry nodes ih =>
    obtain ⟨p, n⟩ := entry
    by_cases same : p = place
    · subst same
      rw [List.filter_cons_of_neg (by simp), ih, List.lookup_cons, beq_false_of_ne other]
    · rw [List.filter_cons_of_pos (by simpa using same), List.lookup_cons, List.lookup_cons, ih]

theorem node?_put (inside : place ≠ []) (there : Place) :
    (t.put place node).node? there = if there = place then some node else t.node? there := by
  unfold node? put
  by_cases same : there = place
  · subst same
    rw [if_neg inside, if_pos rfl, List.lookup_cons, beq_self_eq_true]
  · rw [if_neg same, List.lookup_cons, beq_false_of_ne same, lookup_filter same]

theorem find_eq_ok {found : Option Node} (looked : t.find here name = .ok (there, found)) :
    ¬ maxName < name.utf8ByteSize ∧ there = enter here name ∧ t.node? there = found := by
  unfold find at looked
  split at looked
  · cases looked
  · next short =>
    cases looked
    exact ⟨short, rfl, rfl⟩

theorem find_put (node : Node) (inside : place ≠ []) (looked : t.find here name = .ok (there, t.node? there)) :
    (t.put place node).find here name = .ok (there, if there = place then some node else t.node? there) := by
  obtain ⟨short, rfl, -⟩ := find_eq_ok looked
  rw [find, if_neg short, node?_put inside]

theorem ne_nil_of_closed (closed : t.node? place ≠ some .directory) : place ≠ [] := by
  rintro rfl
  exact closed rfl

theorem walk_put (closed : t.node? place ≠ some .directory) (reached : t.walk here names = .ok there) :
    (t.put place node).walk here names = .ok there := by
  induction names generalizing here with
  | nil => exact reached
  | cons name names ih =>
    rw [walk] at reached
    split at reached
    · cases reached
    · cases reached
    · cases reached
    · next next looked =>
      obtain ⟨-, -, isDirectory⟩ := find_eq_ok looked
      have other : next ≠ place := by
        rintro rfl
        exact closed isDirectory
      have again := find_put node (ne_nil_of_closed closed) (isDirectory ▸ looked)
      rw [if_neg other, isDirectory] at again
      rw [walk, again]
      exact ih reached

/-- What writing comes to: the directory is there, and there is no directory where the file is to be. -/
theorem write_eq_ok (written : t.write path bytes = .ok t') :
    ∃ names name here there, Path.ofText path = .ok ⟨names, false⟩ ∧ names.getLast? = some name ∧
      t.walk [] names.dropLast = .ok here ∧ t.find here name = .ok (there, t.node? there) ∧
      t.node? there ≠ some .directory ∧ t' = t.put there (.file bytes) := by
  obtain ⟨⟨names, endsInSlash⟩, isPath, behind⟩ := bind_eq_ok.mp written
  obtain ⟨here, reached, last⟩ := bind_eq_ok.mp behind
  split at last
  · cases last
  · next name isLast =>
    split at last
    · cases last
    · next notSlash =>
      obtain ⟨⟨there, found⟩, looked, put⟩ := bind_eq_ok.mp last
      obtain ⟨-, -, rfl⟩ := find_eq_ok looked
      obtain rfl : endsInSlash = false := Bool.eq_false_iff.mpr notSlash
      split at put
      · cases put
      · next noDirectory same =>
        cases same
        cases put
        exact ⟨names, name, here, there, isPath, isLast, reached, looked, noDirectory, rfl⟩

theorem read_of_write (written : t.write path bytes = .ok t') : t'.read path = .ok bytes := by
  obtain ⟨names, name, here, there, isPath, last, reached, looked, closed, rfl⟩ := write_eq_ok written
  have again := find_put (.file bytes) (ne_nil_of_closed closed) looked
  rw [if_pos rfl] at again
  refine bind_eq_ok.mpr ⟨_, isPath, bind_eq_ok.mpr ⟨here, walk_put closed reached, ?_⟩⟩
  simp only [last]
  exact bind_eq_ok.mpr ⟨_, again, rfl⟩

end ChannelFeed.Files.Tree
