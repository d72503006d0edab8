import ChannelFeed.Proofs.Json.Members
import ChannelFeed.Proofs.Json.Reads

/-!
# Values as they are written

A text can repeat a key within an object; a value that was read does not show it. Here a text is read to a tree that
keeps the members of every object as they are written, in their order and with their repetitions. Reading it to a value
is the same, but that of members with one key the last stays.
-/

namespace ChannelFeed.Json

mutual

/-- The value behind what is written: of members with one key the last stays, at every depth. -/
def normal : Json → Json
  | .null => .null
  | .bool b => .bool b
  | .integer n => .integer n
  | .double x => .double x
  | .string s => .string s
  | .array items => .array (normalItems items)
  | .object members => .object (ofPairs (normalMembers members))

def normalItems : List Json → List Json
  | [] => []
  | v :: vs => v.normal :: normalItems vs

def normalMembers : List (String × Json) → List (String × Json)
  | [] => []
  | (k, v) :: ms => (k, v.normal) :: normalMembers ms

end

theorem normalItems_eq (items : List Json) : normalItems items = items.map normal := by
  induction items with
  | nil => rfl
  | cons v vs ih => rw [normalItems, ih, List.map_cons]

theorem normalMembers_eq (members : List (String × Json)) :
    normalMembers members = members.map fun (k, v) => (k, v.normal) := by
  induction members with
  | nil => rfl
  | cons m ms ih => rw [normalMembers, ih, List.map_cons]

theorem ofPairs_append (pairs : List (String × Json)) (k : String) (v : Json) :
    ofPairs (pairs ++ [(k, v)]) = insert k v (ofPairs pairs) := by
  rw [ofPairs, List.foldl_append]
  rfl

def text? : Json → Option String
  | .string s => some s
  | _ => none

def items? : Json → Option (List Json)
  | .array xs => some xs
  | _ => none

/-- The members of an object, in the order in which it has them. -/
def pairs? : Json → Option (List (String × Json))
  | .object pairs => some pairs
  | _ => none

namespace Reader

/-- A member that is kept behind those before it. -/
def keepMember (item : Reader Json) (k : String) (pairs : List (String × Json)) : Reader (List (String × Json)) := do
  colon
  return pairs ++ [(k, ← item)]

/-- An object behind its opening brace, with its members as they are written. -/
def pairsBody (item : Reader Json) : Reader Json := do
  let pairs ← members (keepMember item) (← left) true []
  endOfObject
  return .object pairs

/-- A value as it is written, whose items and members are read by `inner`, or that may have none. -/
def writtenWith (inner : Option (Reader Json)) : Reader Json := do
  match ← token with
  | some '\x7b' =>
    match inner with
    | none => failAhead .tooDeep
    | some item => advance; pairsBody item
  | _ => valueWith inner

/-- A value as it is written in which arrays and objects may be nested `room` deep. -/
def written : (room : Nat) → Reader Json
  | 0 => writtenWith none
  | room + 1 => writtenWith (some (written room))

section
variable {α β σ τ : Type}

theorem items_map (f : α → β) (item : Reader α) (bound : Nat) (first : Bool) :
    items (f <$> item) bound first = List.map f <$> items item bound first := by
  induction bound generalizing first with
  | zero => rfl
  | succ bound ih =>
    simp only [items, map_bind]
    refine bind_congr fun another => ?_
    cases another with
    | false => rfl
    | true => simp only [if_true, map_bind, bind_map_left, map_pure, List.map_cons, ih]

/-- What is known of an object is carried along if each member keeps it so. -/
theorem members_map (f : σ → τ) {member : String → σ → Reader σ} {other : String → τ → Reader τ}
    (each : ∀ k s, other k (f s) = f <$> member k s) (bound : Nat) (first : Bool) (s : σ) :
    members other bound first (f s) = f <$> members member bound first s := by
  induction bound generalizing first s with
  | zero => rfl
  | succ bound ih =>
    simp only [members, map_bind]
    refine bind_congr fun another => ?_
    cases another with
    | false => rfl
    | true => simp only [if_true, map_bind, bind_map_left, each, ih]

end

theorem arrayBody_map (item : Reader Json) : arrayBody (normal <$> item) = normal <$> arrayBody item := by
  simp only [arrayBody, items_map, map_bind, bind_map_left, map_pure, normal, normalItems_eq]

/-- The members that a list of pairs makes, and the value of each. -/
def normalTable (pairs : List (String × Json)) : Members := ofPairs (normalMembers pairs)

theorem normalTable_keep (pairs : List (String × Json)) (k : String) (v : Json) :
    normalTable (pairs ++ [(k, v)]) = insert k v.normal (normalTable pairs) := by
  simp only [normalTable, normalMembers_eq, List.map_append, List.map_cons, List.map_nil, ofPairs_append]

theorem objectBody_map (item : Reader Json) : objectBody (normal <$> item) = normal <$> pairsBody item := by
  let put (k : String) (ms : Members) : Reader Members := do colon; return insert k (← normal <$> item) ms
  have each (k : String) (pairs : List (String × Json)) :
      put k (normalTable pairs) = normalTable <$> keepMember item k pairs := by
    simp only [put, keepMember, map_bind, bind_map_left, map_pure, normalTable_keep]
  have all (bound : Nat) : members put bound true [] = normalTable <$> members (keepMember item) bound true [] :=
    members_map normalTable each bound true []
  change (do let ms ← members put (← left) true []; endOfObject; return Json.object ms : Reader Json) = _
  simp only [pairsBody, all, map_bind, bind_map_left, map_pure, normal, normalTable]

theorem blanksFrom_again (p : Position) (text : List UInt8) :
    blanksFrom (blanksFrom p text).place (blanksFrom p text).rest = blanksFrom p text := by
  induction text generalizing p with
  | nil => rfl
  | cons b text ih =>
    rw [blanksFrom]
    split
    · exact ih _
    · next visible => rw [blanksFrom, if_neg visible]

theorem token_again {c d : Cursor} {next : Option Char} (looked : token c = .ok (next, d)) :
    token d = .ok (next, d) := by
  cases looked
  change (look (blanksFrom (blanksFrom c.place c.rest).place (blanksFrom c.place c.rest).rest) : Except Fault _) = _
  rw [blanksFrom_again]
  rfl

section
variable {inner : Option (Reader Json)} {c d : Cursor} {next : Option Char}

theorem valueWith_token (looked : token c = .ok (next, d)) : valueWith inner d = valueWith inner c := by
  unfold valueWith
  rw [bind_run looked, bind_run (token_again looked)]

theorem writtenWith_other (looked : token c = .ok (next, d)) (other : next ≠ some '\x7b') :
    writtenWith inner c = valueWith inner c := by
  unfold writtenWith
  rw [bind_run looked]
  split
  · contradiction
  · exact valueWith_token looked

end

/-- A value of one word or number, by the byte it begins with. -/
inductive Leaf (c : Cursor) : (letter : Char) → Json → Cursor → Prop
  | null {d c' : Cursor} (looked : token c = .ok (some 'n', d))
    (spelled : word ['u', 'l', 'l'] d.advance = .ok ((), c')) : Leaf c 'n' .null c'
  | yes {d c' : Cursor} (looked : token c = .ok (some 't', d))
    (spelled : word ['r', 'u', 'e'] d.advance = .ok ((), c')) : Leaf c 't' (.bool true) c'
  | no {d c' : Cursor} (looked : token c = .ok (some 'f', d))
    (spelled : word ['a', 'l', 's', 'e'] d.advance = .ok ((), c')) : Leaf c 'f' (.bool false) c'
  | negative {d c' : Cursor} {n : Numeral} (looked : token c = .ok (some '-', d))
    (digits : numeral true d.advance = .ok (n, c')) : Leaf c '-' n.json c'
  | natural {letter : Char} {d c' : Cursor} {n : Numeral} (looked : token c = .ok (some letter, d))
    (digit : '0' ≤ letter ∧ letter ≤ '9') (digits : numeral false d = .ok (n, c')) : Leaf c letter n.json c'

/-- How a value is written, by its kind. -/
inductive Stands (inner : Option (Reader Json)) (c : Cursor) : Json → Cursor → Prop
  | leaf {letter : Char} {w : Json} {c' : Cursor} (leaf : Leaf c letter w c') : Stands inner c w c'
  | string {d c' : Cursor} {s : String} (looked : token c = .ok (some '"', d))
    (body : stringBody d.advance = .ok (s, c')) : Stands inner c (.string s) c'
  | array {item : Reader Json} {d e c' : Cursor} {xs : List Json} (within : inner = some item)
    (looked : token c = .ok (some '[', d)) (read : items item d.advance.rest.length true d.advance = .ok (xs, e))
    (ended : endOfArray e = .ok ((), c')) : Stands inner c (.array xs) c'
  | object {item : Reader Json} {d e c' : Cursor} {pairs : List (String × Json)} (within : inner = some item)
    (looked : token c = .ok (some '\x7b', d))
    (read : members (keepMember item) d.advance.rest.length true [] d.advance = .ok (pairs, e))
    (ended : endOfObject e = .ok ((), c')) : Stands inner c (.object pairs) c'

section
variable {inner : Option (Reader Json)} {c d c' : Cursor} {letter : Char} {w : Json}

theorem Leaf.looked (leaf : Leaf c letter w c') : ∃ d, token c = .ok (some letter, d) := by
  cases leaf <;> exact ⟨_, ‹_›⟩

theorem Leaf.plain (leaf : Leaf c letter w c') : text? w = none ∧ items? w = none ∧ pairs? w = none := by
  cases leaf with
  | @negative _ _ n | @natural _ _ _ n => cases n <;> exact ⟨rfl, rfl, rfl⟩
  | _ => exact ⟨rfl, rfl, rfl⟩

theorem Leaf.distinct (leaf : Leaf c letter w c') : letter ≠ '"' ∧ letter ≠ '[' ∧ letter ≠ '\x7b' := by
  cases leaf with
  | natural _ digit => refine ⟨?_, ?_, ?_⟩ <;> rintro rfl <;> exact absurd digit (by decide)
  | _ => decide

theorem behind_eq_ok {α : Type} {reader : Reader α} {f : α → Json}
    (read : (do advance; return f (← reader) : Reader Json) d = .ok (w, c')) :
    ∃ x, reader d.advance = .ok (x, c') ∧ f x = w := by
  obtain ⟨_, e, moved, read⟩ := bind_eq_ok.mp read
  cases moved
  obtain ⟨x, f, known, read⟩ := bind_eq_ok.mp read
  cases read
  exact ⟨x, known, rfl⟩

theorem pairsBody_eq_ok {item : Reader Json} (read : pairsBody item d = .ok (w, c')) :
    ∃ pairs e, members (keepMember item) d.rest.length true [] d = .ok (pairs, e) ∧ endOfObject e = .ok ((), c') ∧
      w = .object pairs := by
  obtain ⟨bound, e, counted, read⟩ := bind_eq_ok.mp read
  cases counted
  obtain ⟨pairs, e, kept, read⟩ := bind_eq_ok.mp read
  obtain ⟨_, f, ended, read⟩ := bind_eq_ok.mp read
  cases read
  exact ⟨pairs, e, kept, ended, rfl⟩

theorem arrayBody_eq_ok {item : Reader Json} (read : arrayBody item d = .ok (w, c')) :
    ∃ xs e, items item d.rest.length true d = .ok (xs, e) ∧ endOfArray e = .ok ((), c') ∧ w = .array xs := by
  obtain ⟨bound, e, counted, read⟩ := bind_eq_ok.mp read
  cases counted
  obtain ⟨xs, e, kept, read⟩ := bind_eq_ok.mp read
  obtain ⟨_, f, ended, read⟩ := bind_eq_ok.mp read
  cases read
  exact ⟨xs, e, kept, ended, rfl⟩

theorem stands_of_written (read : writtenWith inner c = .ok (w, c')) : Stands inner c w c' := by
  obtain ⟨next, d, looked⟩ : ∃ next d, token c = .ok (next, d) := ⟨_, _, rfl⟩
  unfold writtenWith at read
  rw [bind_run looked] at read
  split at read
  · cases inner with
    | none => cases read
    | some item =>
      obtain ⟨pairs, e, kept, ended, rfl⟩ := pairsBody_eq_ok (d := d.advance) read
      exact .object rfl looked kept ended
  · unfold valueWith at read
    rw [bind_run (token_again looked)] at read
    split at read
    · cases read
    · obtain ⟨_, spelled, rfl⟩ := behind_eq_ok (f := fun _ => .null) read
      exact .leaf (.null looked spelled)
    · obtain ⟨_, spelled, rfl⟩ := behind_eq_ok (f := fun _ => .bool true) read
      exact .leaf (.yes looked spelled)
    · obtain ⟨_, spelled, rfl⟩ := behind_eq_ok (f := fun _ => .bool false) read
      exact .leaf (.no looked spelled)
    · obtain ⟨s, body, rfl⟩ := behind_eq_ok read
      exact .string looked body
    · obtain ⟨n, digits, rfl⟩ := behind_eq_ok read
      exact .leaf (.negative looked digits)
    · cases inner with
      | none => cases read
      | some item =>
        obtain ⟨xs, e, kept, ended, rfl⟩ := arrayBody_eq_ok (d := d.advance) read
        exact .array rfl looked kept ended
    · contradiction
    · split at read
      · next digit =>
        obtain ⟨n, f, digits, read⟩ := bind_eq_ok.mp read
        cases read
        exact .leaf (.natural looked digit digits)
      · cases read

end

theorem normal_numeral (n : Numeral) : n.json.normal = n.json := by
  cases n <;> rfl

theorem valueWith_map (inner : Option (Reader Json)) :
    valueWith (inner.map (normal <$> ·)) = normal <$> writtenWith inner := by
  funext c
  obtain ⟨next, d, looked⟩ : ∃ next d, token c = .ok (next, d) := ⟨_, _, rfl⟩
  have here {a b : Reader Json} (same : a c = b c) : (normal <$> a) c = (normal <$> b) c := by
    change (a c >>= fun r => pure (normal r.1, r.2) : Except Fault _) = _
    rw [same]
    rfl
  by_cases brace : next = some '\x7b'
  · subst brace
    unfold writtenWith valueWith
    rw [map_bind, bind_run looked, bind_run looked]
    cases inner with
    | none => rfl
    | some item => simp only [Option.map_some, map_bind, objectBody_map]
  · rw [here (writtenWith_other looked brace)]
    unfold valueWith
    rw [map_bind, bind_run looked, bind_run looked]
    split
    case h_8 => contradiction
    case h_7 =>
      cases inner with
      | none => rfl
      | some item => simp only [Option.map_some, map_bind, arrayBody_map]
    case h_1 => rfl
    case h_9 =>
      split
      · simp only [map_bind, map_pure, normal_numeral]
      · rfl
    all_goals simp only [map_bind, map_pure, normal, normal_numeral]

theorem value_eq (room : Nat) : value room = normal <$> written room := by
  induction room with
  | zero => exact valueWith_map none
  | succ room ih =>
    rw [value, ih]
    exact valueWith_map (some (written room))

theorem whole?_map {α β : Type} (f : α → β) (reader : Reader α) (bytes : List UInt8) :
    whole? (f <$> reader) bytes = (whole? reader bytes).map f := by
  have all : (do let y ← f <$> reader; endOfText; return y : Reader β) =
      f <$> (do let x ← reader; endOfText; return x) := by
    simp only [map_bind, bind_map_left, map_pure]
  unfold whole?
  rw [all]
  change ((do let x ← reader; endOfText; return x : Reader α) (.start bytes) >>= _) >>= _ = _
  generalize (do let x ← reader; endOfText; return x : Reader α) (.start bytes) = read
  cases read <;> rfl

end Reader

/-- What a text holds, as it is written. -/
def readAsWritten (bytes : List UInt8) : Except Fault Json := Reader.whole? (Reader.written Reader.maxDepth) bytes

/-- The value that a text holds is what is written in it, made normal; both are refused for the same reason. -/
theorem read_eq (bytes : List UInt8) : Json.read bytes = (readAsWritten bytes).map normal := by
  rw [Json.read, Reader.value_eq]
  exact Reader.whole?_map normal _ bytes

end ChannelFeed.Json
