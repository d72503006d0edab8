import ChannelFeed.Json.Value

/-!
# Passing over values

A value that nobody asks for is passed over without being built. It may be nested to any depth, its
numbers need not be representable and its strings need not be text. The open arrays and objects around
the reader are kept as a list, innermost first.
-/

namespace ChannelFeed.Json.Reader

/-- What is open around a value that is passed over. -/
inductive Open where
  | array
  | object

/-- Passes over the digits of an exponent, its letter being next. -/
def passExponent : Reader Unit := do
  advance
  match ← look with
  | some '+' | some '-' => advance
  | _ => pure ()
  match digit? (← next) with
  | none => fail .badNumber
  | some _ =>
    let _ ← digits (← left)
    return

def passExponentIf : Reader Unit := do
  match ← look with
  | some 'e' | some 'E' => passExponent
  | _ => return

/-- Passes over what may follow the integer digits of a numeral. -/
def passAfterInteger : Reader Unit := do
  match ← look with
  | some '.' =>
    advance
    if (← digits (← left)) = 0 then failAhead .badNumber
    passExponentIf
  | _ => passExponentIf

def passNumeral : Reader Unit := do
  match digit? (← next) with
  | none => fail .badNumber
  | some 0 =>
    match digit? (← look) with
    | some _ => failAhead .badNumber
    | none => passAfterInteger
  | some _ =>
    let _ ← digits (← left)
    passAfterInteger

/-- Takes the first byte of a value. Either the value is passed over, or it is an array or object that
is now open. -/
def passOpening : Reader (Option Open) := do
  match ← token with
  | none => failAhead .endInValue
  | some 'n' => advance; word ['u', 'l', 'l']; return none
  | some 't' => advance; word ['r', 'u', 'e']; return none
  | some 'f' => advance; word ['a', 'l', 's', 'e']; return none
  | some '"' => advance; passString; return none
  | some '-' => advance; passNumeral; return none
  | some '[' => advance; return some .array
  | some '\x7b' => advance; return some .object
  | some c => if '0' ≤ c ∧ c ≤ '9' then do passNumeral; return none else failAhead .noValue

/-- Closes what ends here, from the innermost out, and stops where another value is due. `afterValue`
says whether a value has just ended, so that a comma may follow. Gives what is still open. -/
def passClosings : (bound : Nat) → (afterValue : Bool) → List Open → Reader (List Open)
  | _, _, [] => return []
  | 0, _, _ => failAhead .endInValue
  | bound + 1, afterValue, frame :: outer => do
    match ← token, frame with
    | none, .array => failAhead .endInList
    | none, .object => failAhead .endInObject
    | some ']', .array => advance; passClosings bound true outer
    | some '\x7d', .object => advance; passClosings bound true outer
    | some c, frame =>
      if afterValue then
        if c = ',' then do advance; return frame :: outer
        else match frame with
          | .array => failAhead .noListCommaOrEnd
          | .object => failAhead .noObjectCommaOrEnd
      else return frame :: outer

/-- Passes over the key of the next member, if an object is open innermost. -/
def passKey : List Open → Reader Unit
  | .object :: _ => do
    match ← token with
    | none => failAhead .endInObject
    | some '"' => advance; passString
    | some _ => failAhead .keyNotString
    colon
  | _ => return

def passValues : (bound : Nat) → List Open → Reader Unit
  | 0, _ => failAhead .endInValue
  | bound + 1, opened => do
    let (afterValue, frames) ← do
      match ← passOpening with
      | some frame => pure (false, frame :: opened)
      | none => pure (true, opened)
    match ← passClosings ((← left) + 1) afterValue frames with
    | [] => return
    | frames =>
      passKey frames
      passValues bound frames

def passValue : Reader Unit := do
  passValues ((← left) + 1) []

end ChannelFeed.Json.Reader
