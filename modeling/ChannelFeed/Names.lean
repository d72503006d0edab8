/-!
# Names

Things that are known by a name. A name leads to one thing; another one put under it takes the place of the
first. The things stay in the order in which they were put.
-/

namespace ChannelFeed

abbrev Names (α : Type) := List (String × α)

namespace Names

variable {α : Type}

def get? (names : Names α) (name : String) : Option α := names.lookup name

def erase (names : Names α) (name : String) : Names α := names.filter (·.1 != name)

def put (names : Names α) (name : String) (thing : α) : Names α := names.erase name ++ [(name, thing)]

/-- The things that have a name. -/
def things (names : Names α) : List α := names.map (·.2)

theorem get?_cons (names : Names α) (name other : String) (thing : α) :
    get? ((name, thing) :: names) other = if other = name then some thing else get? names other := by
  by_cases h : other = name
  · simp [get?, h]
  · have : (other == name) = false := by simpa using h
    simp [get?, List.lookup_cons, h, this]

theorem get?_append (front back : Names α) (name : String) :
    get? (front ++ back) name = (get? front name).or (get? back name) := by
  induction front with
  | nil => rfl
  | cons pair rest ih =>
    rw [List.cons_append, get?_cons, get?_cons, ih]
    split <;> rfl

theorem get?_erase (names : Names α) (name other : String) :
    (names.erase name).get? other = if other = name then none else names.get? other := by
  induction names with
  | nil => simp [erase, get?]
  | cons pair rest ih =>
    obtain ⟨first, thing⟩ := pair
    rw [get?_cons]
    by_cases h : first = name
    · have : erase ((first, thing) :: rest) name = erase rest name := by simp [erase, h]
      grind
    · have : erase ((first, thing) :: rest) name = (first, thing) :: erase rest name := by
        simp [erase, h]
      grind [get?_cons]

theorem get?_put (names : Names α) (name other : String) (thing : α) :
    (names.put name thing).get? other = if other = name then some thing else names.get? other := by
  rw [put, get?_append, get?_erase, get?_cons]
  by_cases h : other = name <;> simp [h, get?]

theorem get?_map {β : Type} (f : α → β) (names : Names α) (name : String) :
    get? (names.map fun pair => (pair.1, f pair.2)) name = (names.get? name).map f := by
  induction names with
  | nil => rfl
  | cons pair rest ih =>
    rw [List.map_cons, get?_cons, get?_cons, ih]
    split <;> rfl

theorem mem_things_of_get? {names : Names α} {name : String} {thing : α} (found : names.get? name = some thing) :
    thing ∈ names.things := by
  obtain ⟨front, back, rfl, -⟩ := List.lookup_eq_some_iff.mp found
  simp [things]

theorem mem_things_of_erase {names : Names α} {name : String} {thing : α} (there : thing ∈ (names.erase name).things) :
    thing ∈ names.things := by
  obtain ⟨pair, kept, rfl⟩ := List.mem_map.mp there
  exact List.mem_map.mpr ⟨pair, (List.mem_filter.mp kept).1, rfl⟩

theorem mem_things_put {names : Names α} {name : String} {thing other : α}
    (there : other ∈ (names.put name thing).things) : other ∈ names.things ∨ other = thing := by
  rw [put, things, List.map_append, List.mem_append] at there
  rcases there with old | new
  · exact .inl (mem_things_of_erase old)
  · exact .inr (List.mem_singleton.mp new)

/-- Names of which each stands once. -/
def Distinct (names : Names α) : Prop := (names.map (·.1)).Nodup

theorem Distinct.erase {names : Names α} (distinct : names.Distinct) (name : String) :
    (names.erase name).Distinct :=
  List.Nodup.sublist (List.filter_sublist.map _) distinct

theorem Distinct.put {names : Names α} (distinct : names.Distinct) (name : String) (thing : α) :
    (names.put name thing).Distinct := by
  rw [Distinct, Names.put, List.map_append, List.nodup_append]
  refine ⟨distinct.erase name, by simp, ?_⟩
  intro first there second last same
  obtain ⟨pair, kept, rfl⟩ := List.mem_map.mp there
  have different := (List.mem_filter.mp kept).2
  rw [same, List.mem_singleton.mp last] at different
  simp at different

theorem erase_eq_self_of_get?_eq_none {names : Names α} {name : String} (missing : names.get? name = none) :
    names.erase name = names := by
  rw [erase, List.filter_eq_self]
  intro pair there
  have different := List.lookup_eq_none_iff.mp missing pair there
  exact bne_iff_ne.mpr (Ne.symm (bne_iff_ne.mp different))

/-- To erase a name is to take away the one thing that it leads to. -/
theorem things_perm_of_get? {names : Names α} (distinct : names.Distinct) {name : String} {thing : α}
    (found : names.get? name = some thing) : names.things.Perm (thing :: (names.erase name).things) := by
  obtain ⟨front, back, rfl, before⟩ := List.lookup_eq_some_iff.mp found
  have apart : ∀ pair ∈ front ++ back, pair.1 ≠ name := by
    have once := (List.perm_middle.map Prod.fst).nodup_iff.mp distinct
    intro pair there same
    exact (List.nodup_cons.mp once).1 (List.mem_map.mpr ⟨pair, there, same⟩)
  have rest : Names.erase (front ++ (name, thing) :: back) name = front ++ back := by
    rw [Names.erase, List.filter_append, List.filter_cons_of_neg (by simp), ← List.filter_append, List.filter_eq_self]
    intro pair there
    exact bne_iff_ne.mpr (apart pair there)
  rw [rest]
  simp [things, List.perm_middle]

end Names

end ChannelFeed
