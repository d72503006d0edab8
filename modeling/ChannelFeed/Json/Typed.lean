import ChannelFeed.Json.Pass

/-!
# Typed reading

Readers for texts that must hold a value of a certain kind. A value of another kind is reported behind
itself, unless it is an array or object, which is reported where it begins. What is wrong with a record
as a whole, or with one of its keys, is reported behind the blanks and the closing brace that follow.
-/

namespace ChannelFeed.Json.Reader

variable {α σ : Type}

/-- Reports the value ahead as being of the wrong kind. A faulty number or string is reported as such. -/
def wrongKind (expected : Expected) : Reader α := do
  match ← look with
  | some 'n' => advance; word ['u', 'l', 'l']; fail (.wrongType .null expected)
  | some 't' => advance; word ['r', 'u', 'e']; fail (.wrongType (.bool true) expected)
  | some 'f' => advance; word ['a', 'l', 's', 'e']; fail (.wrongType (.bool false) expected)
  | some '-' => advance; fail (.wrongType (← numeral true).found expected)
  | some '"' => advance; fail (.wrongType (.string (← stringBody)) expected)
  | some '[' => fail (.wrongType .sequence expected)
  | some '\x7b' => fail (.wrongType .map expected)
  | some c =>
    if '0' ≤ c ∧ c ≤ '9' then fail (.wrongType (← numeral false).found expected)
    else failAhead .noValue
  | none => failAhead .noValue

def string : Reader String := do
  match ← token with
  | none => failAhead .endInValue
  | some '"' => advance; stringBody
  | some _ => wrongKind .string

def bool : Reader Bool := do
  match ← token with
  | none => failAhead .endInValue
  | some 't' => advance; word ['r', 'u', 'e']; return true
  | some 'f' => advance; word ['a', 'l', 's', 'e']; return false
  | some _ => wrongKind .boolean

def naturalOf : Numeral → Reader (Fin UInt64.size)
  | .natural n h => pure ⟨n, h⟩
  | .negative n _ => fail (.wrongValue (.integer (-n)) .natural)
  | .double x => fail (.wrongType (.double x) .natural)

def natural : Reader (Fin UInt64.size) := do
  match ← token with
  | none => failAhead .endInValue
  | some '-' => advance; naturalOf (← numeral true)
  | some c => if '0' ≤ c ∧ c ≤ '9' then naturalOf (← numeral false) else wrongKind .natural

def optional (reader : Reader α) : Reader (Option α) := do
  match ← token with
  | some 'n' => advance; word ['u', 'l', 'l']; return none
  | _ => return some (← reader)

def list (room : Nat) (item : Nat → Reader α) : Reader (List α) := do
  match ← token with
  | none => failAhead .endInValue
  | some '[' =>
    match room with
    | 0 => failAhead .tooDeep
    | room + 1 =>
      advance
      let xs ← items (item room) (← left) true
      endOfArray
      return xs
  | some _ => wrongKind .sequence

/-- Rejects an object as a whole. Blanks and a closing brace at the reader's place are passed first. -/
def reject (cause : Cause) : Reader α := do
  match ← token with
  | some '\x7d' => advance; fail cause
  | _ => fail cause

def field (name : String) (known : Option α) (reader : Reader α) : Reader (Option α) :=
  match known with
  | some _ => reject (.duplicateField name)
  | none => do
    colon
    return some (← reader)

def passMember : Reader Unit := do
  colon
  passValue

/-- How a kind of record is read: what is known before the first member, what a member adds, and the
record made at the end. A record may also be written as an array of its fields in their order. -/
structure Record (σ α : Type) where
  name : String
  start : σ
  member : Nat → String → σ → Reader σ
  finish : σ → Except Cause α
  fromArray : Option (Nat → Reader α)

def record (kind : Record σ α) (room : Nat) : Reader α := do
  match ← token with
  | none => failAhead .endInValue
  | some '\x7b' =>
    match room with
    | 0 => failAhead .tooDeep
    | room + 1 =>
      advance
      let s ← members (kind.member room) (← left) true kind.start
      match kind.finish s with
      | .error cause => reject cause
      | .ok x =>
        endOfObject
        return x
  | some '[' =>
    match kind.fromArray, room with
    | none, _ => wrongKind (.record kind.name)
    | some _, 0 => failAhead .tooDeep
    | some fields, room + 1 =>
      advance
      let x ← fields room
      endOfArray
      return x
  | some _ => wrongKind (.record kind.name)

/-- The next field of a record written as an array, or its default when the array has ended. -/
def nextField (first : Bool) (reader : Reader α) (absent : α) : Reader α := do
  if ← anotherItem first then reader else return absent

end ChannelFeed.Json.Reader
