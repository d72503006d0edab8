import ChannelFeed.Json.Numeral
import ChannelFeed.Json.StringBody

/-!
# Reading values

The reader of JSON values. `room` is how many more arrays and objects may be opened inside one another;
the loops over items and members are bounded by the bytes that are left, as each takes at least one.
-/

namespace ChannelFeed.Json.Reader

variable {α σ : Type}

/-- How deep arrays and objects may be nested in a text. -/
def maxDepth : Nat := 127

/-- Whether another item follows in an array. Its closing bracket stays. -/
def anotherItem (first : Bool) : Reader Bool := do
  match ← token with
  | none => failAhead .endInList
  | some ']' => return false
  | some c =>
    if first then return true
    else if c = ',' then
      advance
      match ← token with
      | none => failAhead .endInValue
      | some ']' => failAhead .trailingComma
      | some _ => return true
    else failAhead .noListCommaOrEnd

def items (item : Reader α) : (bound : Nat) → (first : Bool) → Reader (List α)
  | 0, _ => failAhead .endInList
  | bound + 1, first => do
    if ← anotherItem first then
      let x ← item
      return x :: (← items item bound false)
    else return []

def endOfArray : Reader Unit := do
  match ← token with
  | none => failAhead .endInList
  | some ']' => advance
  | some ',' =>
    advance
    match ← token with
    | some ']' => failAhead .trailingComma
    | _ => failAhead .trailingCharacters
  | some _ => failAhead .trailingCharacters

/-- Whether another member follows in an object. Its opening quote, or the closing brace, stays. -/
def anotherMember (first : Bool) : Reader Bool := do
  match ← token with
  | none => failAhead .endInObject
  | some '\x7d' => return false
  | some c =>
    if first then
      if c = '"' then return true else failAhead .keyNotString
    else if c = ',' then
      advance
      match ← token with
      | none => failAhead .endInValue
      | some '"' => return true
      | some '\x7d' => failAhead .trailingComma
      | some _ => failAhead .keyNotString
    else failAhead .noObjectCommaOrEnd

def key : Reader String := do
  advance
  stringBody

def colon : Reader Unit := do
  match ← token with
  | none => failAhead .endInObject
  | some ':' => advance
  | some _ => failAhead .noColon

/-- The members of an object, each handled with what the ones before it left. -/
def members (member : String → σ → Reader σ) : (bound : Nat) → (first : Bool) → σ → Reader σ
  | 0, _, _ => failAhead .endInObject
  | bound + 1, first, s => do
    if ← anotherMember first then
      let k ← key
      members member bound false (← member k s)
    else return s

def endOfObject : Reader Unit := do
  match ← token with
  | none => failAhead .endInObject
  | some '\x7d' => advance
  | some ',' => failAhead .trailingComma
  | some _ => failAhead .trailingCharacters

def arrayBody (item : Reader Json) : Reader Json := do
  let xs ← items item (← left) true
  endOfArray
  return .array xs

/-- An object behind its opening brace. Of members with one key the last stays. -/
def objectBody (item : Reader Json) : Reader Json := do
  let ms ← members (fun k ms => do colon; return insert k (← item) ms) (← left) true []
  endOfObject
  return .object ms

/-- A value whose items and members are read by `inner`, or that may have none. -/
def valueWith (inner : Option (Reader Json)) : Reader Json := do
  match ← token with
  | none => failAhead .endInValue
  | some 'n' => advance; word ['u', 'l', 'l']; return .null
  | some 't' => advance; word ['r', 'u', 'e']; return .bool true
  | some 'f' => advance; word ['a', 'l', 's', 'e']; return .bool false
  | some '"' => advance; return .string (← stringBody)
  | some '-' => advance; return (← numeral true).json
  | some '[' =>
    match inner with
    | none => failAhead .tooDeep
    | some item => advance; arrayBody item
  | some '\x7b' =>
    match inner with
    | none => failAhead .tooDeep
    | some item => advance; objectBody item
  | some c => if '0' ≤ c ∧ c ≤ '9' then return (← numeral false).json else failAhead .noValue

/-- A value of any kind in which arrays and objects may be nested `room` deep. -/
def value : (room : Nat) → Reader Json
  | 0 => valueWith none
  | room + 1 => valueWith (some (value room))

def endOfText : Reader Unit := do
  match ← token with
  | none => return
  | some _ => failAhead .trailingCharacters

def whole? (reader : Reader α) (bytes : List UInt8) : Except Fault α := do
  let (x, _) ← (do let x ← reader; endOfText; return x : Reader α) (.start bytes)
  return x

end ChannelFeed.Json.Reader

namespace ChannelFeed

def Json.read (bytes : List UInt8) : Except Json.Fault Json :=
  Json.Reader.whole? (Json.Reader.value Json.Reader.maxDepth) bytes

end ChannelFeed
