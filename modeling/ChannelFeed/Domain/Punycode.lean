/-!
# Punycode

Text in the letters, digits and hyphens of host names. The basic characters come first; behind the last
hyphen every other character is written as the distance, in code points and places, from the one before.
-/

namespace ChannelFeed.Domain.Punycode

def base : Nat := 36

def initialBias : Nat := 72

def initialCode : Nat := 0x80

def digit (n : Nat) : Char :=
  if n < 26 then Char.ofNat ('a'.toNat + n) else Char.ofNat ('0'.toNat + (n - 26))

def digitValue? (c : Char) : Option Nat :=
  if 'a' ≤ c ∧ c ≤ 'z' then some (c.toNat - 'a'.toNat)
  else if 'A' ≤ c ∧ c ≤ 'Z' then some (c.toNat - 'A'.toNat)
  else if '0' ≤ c ∧ c ≤ '9' then some (c.toNat - '0'.toNat + 26)
  else none

/-- The place value below which a digit ends a number. -/
def threshold (k bias : Nat) : Nat :=
  if k ≤ bias + 1 then 1 else if bias + 26 ≤ k then 26 else k - bias

/-- Halves a distance until the bias can be read off. -/
def adaptFrom (k delta : Nat) : Nat :=
  if h : 455 < delta then adaptFrom (k + base) (delta / 35) else k + 36 * delta / (delta + 38)
termination_by delta
decreasing_by omega

/-- The bias after a distance, which is damped strongly the first time. -/
def adapt (delta count : Nat) (first : Bool) : Nat :=
  let delta := if first then delta / 700 else delta / 2
  adaptFrom 0 (delta + delta / count)

theorem threshold_bounds (k bias : Nat) : 1 ≤ threshold k bias ∧ threshold k bias ≤ 26 := by
  unfold threshold
  split
  · omega
  · split <;> omega

def digitsFrom (k bias n : Nat) : List Char :=
  let t := threshold k bias
  if n < t then [digit n]
  else digit (t + (n - t) % (base - t)) :: digitsFrom (k + base) bias ((n - t) / (base - t))
termination_by n
decreasing_by
  have ⟨low, high⟩ := threshold_bounds k bias
  simp only [base]
  have : (n - threshold k bias) / (36 - threshold k bias) ≤ n - threshold k bias := Nat.div_le_self ..
  omega

/-- What the encoder keeps while it goes through the text for one code point after the other. -/
structure Encoder where
  delta : Nat
  bias : Nat
  handled : Nat
  out : List Char

/-- Goes through the text for one code point: places of smaller ones count, places of this one are
written. -/
def Encoder.pass (basics code : Nat) (e : Encoder) (codes : List Nat) : Encoder :=
  codes.foldl (fun e c =>
    if c < code then { e with delta := e.delta + 1 }
    else if c = code then
      { delta := 0
        bias := adapt e.delta (e.handled + 1) (e.handled == basics)
        handled := e.handled + 1
        out := e.out ++ digitsFrom base e.bias e.delta }
    else e) e

/-- The smallest code point of a text that is at least a given one. -/
def smallest? (least : Nat) (codes : List Nat) : Option Nat :=
  (codes.filter (least ≤ ·)).min?

/-- Writes the code points from `code` on, the smallest first; each pass handles at least one. -/
def encodeFrom (basics : Nat) (codes : List Nat) : (passes : Nat) → (code : Nat) → Encoder → Encoder
  | 0, _, e => e
  | passes + 1, code, e =>
    match smallest? code codes with
    | none => e
    | some next =>
      let e := { e with delta := e.delta + (next - code) * (e.handled + 1) }
      let e := e.pass basics next codes
      encodeFrom basics codes passes (next + 1) { e with delta := e.delta + 1 }

def encode (codes : List Nat) : List Char :=
  let basic := (codes.filter (· < initialCode)).map Char.ofNat
  let start := if basic.isEmpty then [] else basic ++ ['-']
  (encodeFrom basic.length codes codes.length initialCode ⟨0, initialBias, basic.length, start⟩).out

/-- What the decoder keeps: the text so far, the next code point and place, and the number being read. -/
structure Decoder where
  codes : List Nat
  code : Nat
  place : Nat
  bias : Nat
  start : Nat
  weight : Nat
  k : Nat

/-- Numbers from here on are too large. -/
def numberLimit : Nat := UInt32.size

/-- Takes a digit. A digit below its threshold ends a number and puts a character in its place. -/
def Decoder.digit? (d : Decoder) (c : Char) : Option Decoder :=
  (digitValue? c).bind fun value =>
    let place := d.place + value * d.weight
    let t := threshold d.k d.bias
    if numberLimit ≤ place then none
    else if value < t then
      let count := d.codes.length + 1
      let code := d.code + place / count
      if 0x10FFFF < code ∨ (0xD800 ≤ code ∧ code ≤ 0xDFFF) then none
      else
        some {
          codes := d.codes.take (place % count) ++ code :: d.codes.drop (place % count)
          code
          place := place % count + 1
          bias := adapt (place - d.start) count (d.start == 0)
          start := place % count + 1
          weight := 1
          k := base }
    else if numberLimit ≤ d.weight * (base - t) then none
    else some { d with place, weight := d.weight * (base - t), k := d.k + base }

/-- The basic characters, which end before the last hyphen, and the digits behind it. A hyphen with no
basic character before it counts as a digit. -/
def split (cs : List Char) : List Char × List Char :=
  match cs.reverse.dropWhile (· ≠ '-') with
  | [] | [_] => ([], cs)
  | _ :: basic => (basic.reverse, (cs.reverse.takeWhile (· ≠ '-')).reverse)

/-- The text with a Punycode form. The digits end with a whole number. -/
def decode? (cs : List Char) : Option (List Nat) :=
  let (basic, digits) := split cs
  let start : Decoder := ⟨basic.map Char.toNat, initialCode, 0, initialBias, 0, 1, base⟩
  (digits.foldlM Decoder.digit? start).bind fun d =>
    if d.weight = 1 ∧ d.k = base then some d.codes else none

end ChannelFeed.Domain.Punycode
