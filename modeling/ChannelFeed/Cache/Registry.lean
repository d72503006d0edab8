import ChannelFeed.Cache.Slot
import ChannelFeed.Names

/-!
# The registry

All slots of a run, and the caches that find them by key. A slot is known by its number and is never
thrown away, so whoever took its number before the key was removed goes on using the same slot. A cache
only decides to which slot a key leads now.
-/

namespace ChannelFeed.Cache

/-- A published slot. Each update raises the version, so that an observer can tell that it missed one. -/
structure Cell (α : Type) where
  slot : Slot α
  version : Nat
deriving DecidableEq, Repr

namespace Cell

variable {α : Type}

def fresh : Cell α := ⟨.fresh, 0⟩

def update (c : Cell α) (f : Slot α → Slot α) : Cell α := ⟨f c.slot, c.version + 1⟩

end Cell

abbrev EntryId := Nat

/-- The right to settle a slot, held by the one fetch that is on its way. -/
structure Claim where
  entry : EntryId
  /-- The generation at which the fetch began. -/
  generation : Nat
deriving DecidableEq, Repr

/-- The slots to which the keys of one cache lead. Each key stands once. -/
abbrev Directory := Names EntryId

def Directory.leadsTo (d : Directory) (entry : EntryId) : Bool := d.things.contains entry

structure Registry (α : Type) where
  cells : List (Cell α)
  caches : List Directory
deriving DecidableEq, Repr

namespace Registry

variable {α : Type}

def empty (caches : Nat) : Registry α := ⟨[], List.replicate caches []⟩

def cell (r : Registry α) (entry : EntryId) : Cell α := r.cells[entry]?.getD .fresh

def slot (r : Registry α) (entry : EntryId) : Slot α := (r.cell entry).slot

def update (r : Registry α) (entry : EntryId) (f : Slot α → Slot α) : Registry α :=
  { r with cells := r.cells.modify entry (·.update f) }

theorem length_update (r : Registry α) (entry : EntryId) (f : Slot α → Slot α) :
    (r.update entry f).cells.length = r.cells.length := by
  simp [update]

theorem slot_update (r : Registry α) {entry : EntryId} (other : EntryId) (f : Slot α → Slot α)
    (h : entry < r.cells.length) :
    (r.update entry f).slot other = if other = entry then f (r.slot other) else r.slot other := by
  by_cases ho : entry = other
  · subst ho
    simp [update, slot, cell, h, Cell.update]
  · simp [update, slot, cell, ho, Ne.symm ho]

/-- Takes the right to fetch. A refusal publishes nothing. -/
def claim? (r : Registry α) (entry : EntryId) : Option (Claim × Registry α) :=
  if (r.slot entry).canClaim then
    some (⟨entry, (r.slot entry).generation⟩, r.update entry Slot.claimed)
  else none

def markStale (r : Registry α) (entry : EntryId) : Nat × Registry α :=
  let r := r.update entry Slot.markedStale
  ((r.slot entry).generation, r)

def settle (r : Registry α) (claim : Claim) (state : FetchState α) : Registry α :=
  r.update claim.entry (·.settled claim.generation state)

def release (r : Registry α) (claim : Claim) : Registry α := r.update claim.entry Slot.released

def directory (r : Registry α) (cache : Nat) : Directory := r.caches[cache]?.getD []

def get? (r : Registry α) (cache : Nat) (key : String) : Option EntryId := (r.directory cache).get? key

/-- The slot to which a key leads, which is made if there is none. -/
def getOrAdd (r : Registry α) (cache : Nat) (key : String) : EntryId × Registry α :=
  match r.get? cache key with
  | some entry => (entry, r)
  | none =>
    (r.cells.length,
      { cells := r.cells ++ [.fresh], caches := r.caches.modify cache (· ++ [(key, r.cells.length)]) })

theorem get?_getOrAdd (r : Registry α) {cache : Nat} (key : String) (h : cache < r.caches.length) :
    (r.getOrAdd cache key).2.get? cache key = some (r.getOrAdd cache key).1 := by
  unfold getOrAdd
  split
  · assumption
  · next h' =>
    simp only [get?, directory, List.getElem?_eq_getElem h, Option.getD_some] at h'
    simp [get?, directory, h, Names.get?_append, h', Names.get?_cons]

/-- The slot of a key on its first and every later use. The key is looked up first, and only if that
fails the cache is changed. -/
def entry (r : Registry α) (cache : Nat) (key : String) : EntryId × Registry α :=
  match r.get? cache key with
  | some entry => (entry, r)
  | none => r.getOrAdd cache key

/-- Marks the slot of a key stale. The result says whether there is one. -/
def invalidate (r : Registry α) (cache : Nat) (key : String) : Bool × Registry α :=
  match r.get? cache key with
  | some entry => (true, (r.markStale entry).2)
  | none => (false, r)

/-- Forgets a key. The result says whether it was known. -/
def remove (r : Registry α) (cache : Nat) (key : String) : Bool × Registry α :=
  ((r.get? cache key).isSome, { r with caches := r.caches.modify cache (·.erase key) })

def clear (r : Registry α) (cache : Nat) : Registry α :=
  { r with caches := r.caches.modify cache fun _ => [] }

def size (r : Registry α) (cache : Nat) : Nat := (r.directory cache).length

/-- Whether some cache leads to the slot. -/
def isListed (r : Registry α) (entry : EntryId) : Bool := r.caches.any (·.leadsTo entry)

end Registry

end ChannelFeed.Cache
