import ChannelFeed.Json.Reader

/-!
# Numerals

A numeral without a point and an exponent that fits 64 bits is an integer. Every other one is a double,
made from the leading digits that fit 64 bits; the digits behind them only count for the exponent.
-/

namespace ChannelFeed.Json

/-- The value of a numeral. Zero with a minus sign is a double. -/
inductive Numeral where
  | natural (n : Nat) (h : n < UInt64.size)
  | negative (n : Nat) (h : n ≤ 9223372036854775808)
  | double (x : Binary64)

def Numeral.json : Numeral → Json
  | .natural n h => Json.natural n h
  | .negative n h => .integer ⟨-n, by omega, by omega⟩
  | .double x => .double x

def Numeral.found : Numeral → Found
  | .natural n _ => .integer n
  | .negative n _ => .integer (-n)
  | .double x => .double x

namespace Reader

def digit? (c : Option Char) : Option Nat :=
  c.bind fun c => if '0' ≤ c ∧ c ≤ '9' then some (c.toNat - '0'.toNat) else none

def maxSignificand : Nat := UInt64.size - 1

def maxExponent : Nat := UInt32.size / 2 - 1

def digits : (bound : Nat) → Reader Nat
  | 0 => pure 0
  | bound + 1 => do
    match digit? (← look) with
    | none => pure 0
    | some _ =>
      advance
      return (← digits bound) + 1

/-- Takes digits into a number for as long as it stays within a limit. Gives the number and how many
digits were taken. -/
def digitsUpTo (limit : Nat) : (bound : Nat) → (n : Nat) → Reader (Nat × Nat)
  | 0, n => pure (n, 0)
  | bound + 1, n => do
    match digit? (← look) with
    | none => pure (n, 0)
    | some d =>
      if limit < n * 10 + d then pure (n, 0)
      else
        advance
        let (m, count) ← digitsUpTo limit bound (n * 10 + d)
        return (m, count + 1)

/-- The double for the digits read, which must be finite. -/
def scaled (negative : Bool) (significand : Nat) (exponent : Int) : Reader Numeral :=
  match Binary64.ofDecimal? negative significand exponent with
  | some x => pure (.double x)
  | none => fail .numberOutOfRange

/-- The exponent part, its letter being next. An exponent too large to hold decides the value: out of
range, or zero. -/
def exponentPart (negative : Bool) (significand : Nat) (exponent : Int) : Reader Numeral := do
  advance
  let positive ← do
    match ← look with
    | some '+' => advance; pure true
    | some '-' => advance; pure false
    | _ => pure true
  let first ← next
  match digit? first with
  | none => if first.isNone then fail .endInValue else fail .badNumber
  | some d =>
    let (n, _) ← digitsUpTo maxExponent (← left) d
    match digit? (← look) with
    | none => scaled negative significand (if positive then exponent + n else exponent - n)
    | some _ =>
      advance
      if significand ≠ 0 ∧ positive then fail .numberOutOfRange
      else
        let _ ← digits (← left)
        return .double { Binary64.zero with negative := negative }

/-- What follows the digits of a double: an exponent part or nothing. -/
def afterDigits (negative : Bool) (significand : Nat) (exponent : Int) : Reader Numeral := do
  match ← look with
  | some 'e' | some 'E' => exponentPart negative significand exponent
  | _ => scaled negative significand exponent

/-- The fraction, its point being next. At least one digit follows the point. -/
def fractionPart (negative : Bool) (significand : Nat) (exponent : Int) : Reader Numeral := do
  advance
  let (n, count) ← digitsUpTo maxSignificand (← left) significand
  match digit? (← look) with
  | some _ =>
    let _ ← digits (← left)
    afterDigits negative n (exponent - count)
  | none =>
    if count = 0 then
      failAhead (if (← look).isNone then .endInValue else .badNumber)
    else afterDigits negative n (exponent - count)

/-- The rest of a numeral whose integer digits do not fit 64 bits. -/
def longInteger (negative : Bool) (significand : Nat) : Reader Numeral := do
  let dropped ← digits (← left)
  match ← look with
  | some '.' => fractionPart negative significand dropped
  | _ => afterDigits negative significand dropped

/-- An integer value, if it is one: nonnegative below `2 ^ 64`, or negative from `-2 ^ 63` on. -/
def whole (negative : Bool) (n : Nat) : Reader Numeral :=
  if negative then
    if h : 0 < n ∧ n ≤ 9223372036854775808 then pure (.negative n h.2) else scaled true n 0
  else if h : n < UInt64.size then pure (.natural n h) else scaled false n 0

def afterInteger (negative : Bool) (n : Nat) : Reader Numeral := do
  match ← look with
  | some '.' => fractionPart negative n 0
  | some 'e' | some 'E' => exponentPart negative n 0
  | _ => whole negative n

/-- A numeral from its first digit on. No digit follows a leading zero. -/
def numeral (negative : Bool) : Reader Numeral := do
  let first ← next
  match digit? first with
  | none => if first.isNone then fail .endInValue else fail .badNumber
  | some 0 =>
    match digit? (← look) with
    | some _ => failAhead .badNumber
    | none => afterInteger negative 0
  | some d =>
    let (n, _) ← digitsUpTo maxSignificand (← left) d
    match digit? (← look) with
    | some _ => longInteger negative n
    | none => afterInteger negative n

end Reader

end ChannelFeed.Json
