import ChannelFeed.Text.Composition
import ChannelFeed.Text.CombiningOrder

/-!
# Canonical normalization

The composed normal form of a text: every character is taken apart, marks are put in the order of their
classes, and what has a composed character is put together again.
-/

namespace ChannelFeed.Text

def hangulBase : Nat := 0xAC00

/-- The parts of a Hangul syllable: a leading consonant, a vowel, and perhaps a trailing consonant. -/
def hangulParts? (code : Nat) : Option (List Nat) :=
  if hangulBase ≤ code ∧ code < hangulBase + 11172 then
    let s := code - hangulBase
    let parts := [0x1100 + s / 588, 0x1161 + s % 588 / 28]
    some (if s % 28 = 0 then parts else parts ++ [0x11A7 + s % 28])
  else none

def hangulJoin? (a b : Nat) : Option Nat :=
  if 0x1100 ≤ a ∧ a < 0x1113 ∧ 0x1161 ≤ b ∧ b < 0x1176 then
    some (hangulBase + (a - 0x1100) * 588 + (b - 0x1161) * 28)
  else if hangulBase ≤ a ∧ a < hangulBase + 11172 ∧ (a - hangulBase) % 28 = 0 ∧
      0x11A7 < b ∧ b < 0x11C3 then
    some (a + (b - 0x11A7))
  else none

/-- The full decomposition of a character. A composed character's first part may be composed again, at
most `depth` times. -/
def decompose : (depth : Nat) → Nat → List Nat
  | 0, code => [code]
  | depth + 1, code =>
    match hangulParts? code, decompositions.find? code, compositions.find? code with
    | some parts, _, _ => parts
    | none, some parts, _ => parts
    | none, none, some (first :: rest) => decompose depth first ++ rest
    | none, none, _ => [code]

/-- No character is composed more often than this. -/
def compositionDepth : Nat := 4

/-- Puts a mark behind all marks of its class or a lower one at the end of a text. The text is given from
its end backwards. -/
def placeMark (code : Nat) : List Nat → List Nat
  | [] => [code]
  | last :: rest =>
    if combiningClass code ≠ 0 ∧ combiningClass code < combiningClass last then
      last :: placeMark code rest
    else code :: last :: rest

def decomposed (codes : List Nat) : List Nat :=
  ((codes.flatMap (decompose compositionDepth)).foldl (fun done code => placeMark code done) []).reverse

def join? (a b : Nat) : Option Nat :=
  match hangulJoin? a b with
  | some code => some code
  | none =>
    (compositions.entries.find? fun e => match e.image with
      | .sequence [x, y] => x == a && y == b
      | _ => false).map (·.first)

/-- What has been put together so far: the characters before the current starter, the starter, and the
marks behind it that stay, each part from its end backwards. -/
structure Composing where
  done : List Nat
  starter : Nat
  marks : List Nat

/-- Everything that has been put together, from its end backwards. -/
def Composing.all (c : Composing) : List Nat := c.marks ++ c.starter :: c.done

/-- Adds a character. It joins the starter if no mark between them is in its way, which is one of its
class or a higher one, or any mark if it is a starter itself. -/
def Composing.add (c : Composing) (code : Nat) : Composing :=
  let blocked := match c.marks with
    | [] => false
    | last :: _ => combiningClass code ≤ combiningClass last
  match if blocked then none else join? c.starter code with
  | some joined => { c with starter := joined }
  | none =>
    if combiningClass code = 0 then ⟨c.all, code, []⟩ else { c with marks := code :: c.marks }

/-- Puts the characters of a decomposed text together. Marks before the first starter stay. -/
def compose (codes : List Nat) : List Nat :=
  let leading := codes.takeWhile (combiningClass · ≠ 0)
  match codes.dropWhile (combiningClass · ≠ 0) with
  | [] => leading
  | first :: rest => leading ++ (rest.foldl Composing.add ⟨[], first, []⟩).all.reverse

/-- The composed normal form. A text in ASCII is in normal form. -/
def normalize (codes : List Nat) : List Nat :=
  if codes.all (· < 0x80) then codes else compose (decomposed codes)

end ChannelFeed.Text
