import ChannelFeed.Binary64.Basic

/-!
# Doubles as decimal text

Reading scales a 64-bit significand by a power of ten with one rounding for the significand and one
for each scaling step, so a literal need not give the nearest double. Writing gives the fewest digits
that single out the double among all doubles, and of those the nearest.
-/

namespace ChannelFeed.Binary64

/-- The largest power of ten that is a finite double. -/
def maxPowerOfTen : Nat := 308

def powerOfTen? (k : Nat) : Option Binary64 := ofRatio? false (Nat.pow 10 k) 1

/-- Multiplication by `10 ^ k`: one rounded product, `none` beyond the finite doubles. -/
def scaleUp? (x : Binary64) (k : Nat) : Option Binary64 :=
  if k ≤ maxPowerOfTen then (powerOfTen? k).bind x.mul?
  else if x.isZero then some x else none

/-- Division by `10 ^ k`: rounded quotients by the largest power of ten first, then by what is left. -/
def scaleDown? (x : Binary64) (k : Nat) : Option Binary64 :=
  if k ≤ maxPowerOfTen then (powerOfTen? k).bind x.div?
  else if x.isZero then some x
  else ((powerOfTen? maxPowerOfTen).bind x.div?).bind (scaleDown? · (k - maxPowerOfTen))
termination_by k
decreasing_by simp only [maxPowerOfTen] at *; omega

/-- The double read from a literal with the given significant digits and decimal exponent; `none`
where it is beyond every finite double. -/
def ofDecimal? (negative : Bool) (digits : Nat) (exponent : Int) : Option Binary64 :=
  (ofRatio? false digits 1).bind fun x =>
    let scaled := if exponent < 0 then x.scaleDown? exponent.natAbs else x.scaleUp? exponent.natAbs
    scaled.map fun y => { y with negative := negative }

/-- A number of the form `digits * 10 ^ exponent`. -/
structure Decimal where
  digits : Nat
  exponent : Int
deriving DecidableEq, Repr

/-- The reals that round to a magnitude, in units of `2 ^ -1076`: the ends lie half way to its
neighbours, and belong to it when its significand is even. -/
structure Interval where
  low : Nat
  value : Nat
  high : Nat
  closed : Bool

def interval (x : Binary64) : Interval :=
  let unit := Nat.pow 2 x.scale
  let value := 4 * x.significand * unit
  let below := if x.significand = Nat.pow 2 52 ∧ 0 < x.scale then unit else 2 * unit
  ⟨value - below, value, value + 2 * unit, x.significand % 2 = 0⟩

def Interval.contains (i : Interval) (num den : Nat) : Bool :=
  if i.closed then i.low * den ≤ num && num ≤ i.high * den
  else i.low * den < num && num < i.high * den

/-- The multiple of `10 ^ k` in the interval that lies nearest to its value, if there is one. It is one
of the two neighbours of the value on that grid. -/
def Interval.gridPoint? (i : Interval) (k : Int) : Option Nat :=
  let one := Nat.pow 2 1076
  let (step, den) := if k < 0 then (one, Nat.pow 10 k.natAbs) else (one * Nat.pow 10 k.natAbs, 1)
  let below := i.value * den / step
  let above := below + 1
  let toBelow := i.value * den - below * step
  let toAbove := above * step - i.value * den
  match i.contains (below * step) den, i.contains (above * step) den with
  | true, true =>
    if toBelow < toAbove then some below
    else if toAbove < toBelow then some above
    else some (if below % 2 = 0 then below else above)
  | true, false => some below
  | false, true => some above
  | false, false => none

/-- The first grid with a point in the interval, trying `10 ^ k` for `k` from `top` downwards. -/
def Interval.coarsest (i : Interval) : (tries : Nat) → (top : Int) → Decimal
  | 0, top => ⟨0, top⟩
  | tries + 1, top =>
    match i.gridPoint? top with
    | some (d + 1) => ⟨d + 1, top⟩
    | _ => i.coarsest tries (top - 1)

/-- The shortest decimal that reads back as the magnitude of a nonzero double. No finite double
reaches `10 ^ 309`, and every one has a multiple of `10 ^ -343` in its interval. -/
def shortest (x : Binary64) : Decimal := x.interval.coarsest 653 309

/-- How a decimal is laid out: the exponents that are written out in full. Others have one digit before
the point and an exponent with its sign. -/
structure Layout where
  least : Int
  greatest : Int

/-- Magnitudes from `10 ^ -5` up to, not including, `10 ^ 16` are written out in full. -/
def layout : Layout := ⟨-5, 15⟩

private def zeros (n : Nat) : List Char := List.replicate n '0'

/-- The decimal text of a magnitude, always with a point or an exponent. -/
def Decimal.text (d : Decimal) : List Char :=
  let digits := Nat.toDigits 10 d.digits
  let leading := d.exponent + digits.length - 1
  if leading < layout.least ∨ layout.greatest < leading then
    let fraction := match digits.drop 1 with
      | [] => []
      | rest => '.' :: rest
    digits.take 1 ++ fraction ++ 'e' :: (if leading < 0 then '-' else '+') ::
      Nat.toDigits 10 leading.natAbs
  else if 0 ≤ d.exponent then digits ++ zeros d.exponent.natAbs ++ ['.', '0']
  else if 0 ≤ leading then
    digits.take (leading.natAbs + 1) ++ '.' :: digits.drop (leading.natAbs + 1)
  else '0' :: '.' :: zeros (leading.natAbs - 1) ++ digits

/-- The text of a double: shortest digits, and a minus sign for negative numbers and negative zero. -/
def text (x : Binary64) : List Char :=
  let magnitude := if x.isZero then ['0', '.', '0'] else x.shortest.text
  if x.negative then '-' :: magnitude else magnitude

end ChannelFeed.Binary64
