/-!
# Finite double-precision numbers

A finite double is held as its sign and its *rank*: the place of its magnitude in the increasing list
of all finite magnitudes, zero being the first. Every value has exactly one representation, and
arithmetic is exact on natural numbers followed by one rounding to the nearest rank.
-/

namespace ChannelFeed

/-- The number of ranks below the first magnitude that is no longer finite. -/
def Binary64.ranks : Nat := 2047 * Nat.pow 2 52

/-- A finite double: a sign and the rank of its magnitude. -/
structure Binary64 where
  negative : Bool
  rank : Nat
  finite : rank < Binary64.ranks
deriving DecidableEq

namespace Binary64

/-- The quotient of two natural numbers rounded to the nearest integer, a tie going to the even one. -/
def roundHalfEven (num den : Nat) : Nat :=
  let q := num / den
  let r := num % den
  if 2 * r < den then q
  else if den < 2 * r then q + 1
  else q + q % 2

/-- The binade of a magnitude above the lowest one: its unit is `2 ^ (scale - 1074)`. -/
def scale (x : Binary64) : Nat := x.rank / Nat.pow 2 52 - 1

/-- The magnitude counted in its unit. -/
def significand (x : Binary64) : Nat :=
  if x.rank < Nat.pow 2 52 then x.rank else Nat.pow 2 52 + x.rank % Nat.pow 2 52

/-- The magnitude counted in the smallest unit of all, `2 ^ -1074`. -/
def ulps (x : Binary64) : Nat := x.significand * Nat.pow 2 x.scale

/-- The rank nearest to `num / den` units of `2 ^ -1074`. It may lie beyond the finite ranks. -/
def nearestRank (num den : Nat) : Nat :=
  let whole := num / den
  let s := if whole < Nat.pow 2 53 then 0 else whole.log2 - 52
  s * Nat.pow 2 52 + roundHalfEven num (den * Nat.pow 2 s)

/-- The double of the given sign nearest to `num / den`, or `none` where that is beyond every finite
double. -/
def ofRatio? (negative : Bool) (num den : Nat) : Option Binary64 :=
  let rank := nearestRank (num * Nat.pow 2 1074) den
  if h : rank < ranks then some ⟨negative, rank, h⟩ else none

def zero : Binary64 := ⟨false, 0, by decide⟩

def isZero (x : Binary64) : Bool := x.rank == 0

/-- The rounded product, or `none` on overflow. -/
def mul? (x y : Binary64) : Option Binary64 :=
  ofRatio? (x.negative != y.negative) (x.ulps * y.ulps) (Nat.pow 2 2148)

/-- The rounded quotient by a nonzero double, or `none` on overflow. -/
def div? (x y : Binary64) : Option Binary64 :=
  ofRatio? (x.negative != y.negative) x.ulps y.ulps

/-- Numeric equality: the two zeros are equal, and otherwise the representations decide. -/
def same (x y : Binary64) : Bool :=
  x.rank == y.rank && (x.negative == y.negative || x.isZero)

theorem same_self (x : Binary64) : x.same x = true := by simp [same]

end Binary64

end ChannelFeed
