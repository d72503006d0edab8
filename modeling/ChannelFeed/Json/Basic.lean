import ChannelFeed.Binary64.Basic

/-!
# JSON values

Integers and doubles are different kinds of number. The members of an object are a list; a value that
was read holds them in the order of their keys, each key once, and `insert` keeps it so.
-/

namespace ChannelFeed

/-- The integers a JSON value can hold: from `-2 ^ 63` up to, not including, `2 ^ 64`. -/
structure JsonInt where
  value : Int
  lower : -9223372036854775808 ≤ value
  upper : value < 18446744073709551616
deriving DecidableEq

inductive Json where
  | null
  | bool (b : Bool)
  | integer (n : JsonInt)
  | double (x : Binary64)
  | string (s : String)
  | array (items : List Json)
  | object (members : List (String × Json))

namespace Json

abbrev Members := List (String × Json)

/-- Puts a member in its place by key, in place of one with the same key. -/
def insert (key : String) (value : Json) : Members → Members
  | [] => [(key, value)]
  | (k, v) :: rest =>
    if key < k then (key, value) :: (k, v) :: rest
    else if key = k then (key, value) :: rest
    else (k, v) :: insert key value rest

def lookup (key : String) (members : Members) : Option Json :=
  (members.find? (·.1 = key)).map (·.2)

/-- The members of a list of pairs, the last one with a key winning. -/
def ofPairs (pairs : List (String × Json)) : Members :=
  pairs.foldl (fun members (k, v) => insert k v members) []

def natural (n : Nat) (h : n < UInt64.size) : Json := .integer ⟨n, by omega, Int.ofNat_lt.mpr h⟩

mutual

/-- Equality of values: the two zeros among the doubles are equal, an integer never equals a double. -/
def same : Json → Json → Bool
  | .null, .null => true
  | .bool a, .bool b => a == b
  | .integer a, .integer b => a.value == b.value
  | .double a, .double b => a.same b
  | .string a, .string b => a == b
  | .array a, .array b => sameItems a b
  | .object a, .object b => sameMembers a b
  | _, _ => false

def sameItems : List Json → List Json → Bool
  | [], [] => true
  | a :: as, b :: bs => a.same b && sameItems as bs
  | _, _ => false

def sameMembers : List (String × Json) → List (String × Json) → Bool
  | [], [] => true
  | (k, a) :: as, (l, b) :: bs => k == l && a.same b && sameMembers as bs
  | _, _ => false

end

mutual

theorem same_self : ∀ v : Json, v.same v = true
  | .null | .bool _ | .integer _ | .string _ => by simp [same]
  | .double x => by rw [same, x.same_self]
  | .array items => by rw [same, sameItems_self items]
  | .object members => by rw [same, sameMembers_self members]

theorem sameItems_self : ∀ items : List Json, sameItems items items = true
  | [] => by rw [sameItems]
  | v :: items => by rw [sameItems, same_self v, sameItems_self items]; rfl

theorem sameMembers_self : ∀ members : List (String × Json), sameMembers members members = true
  | [] => by rw [sameMembers]
  | (key, v) :: members => by rw [sameMembers, same_self v, sameMembers_self members, beq_self_eq_true]; rfl

end

end Json

end ChannelFeed
