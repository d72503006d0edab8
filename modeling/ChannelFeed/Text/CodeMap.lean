import ChannelFeed.Text.CodeRanges

/-!
# Maps from code points to sequences of code points

A map is written as a table of entries with blanks or line breaks between them: `DF:73.73` sends one code
point to a sequence, `41-5A:61` sends a range to consecutive code points, and `100-12E/1` sends every
second code point of a range to the one behind it.
-/

namespace ChannelFeed

/-- Where a range of code points is sent. -/
inductive CodeImage where
  | sequence (codes : List Nat)
  | run (start : Nat)
  | alternate (step : Nat)

structure CodeMapEntry where
  first : Nat
  last : Nat
  image : CodeImage

structure CodeMap where
  entries : List CodeMapEntry

namespace CodeMap

/-- An entry from its range and what its image is made from. -/
def entry? (range : List Char) (image : Nat → Nat → CodeImage) : Option CodeMapEntry :=
  match CodeRanges.pieces (· = '-') range with
  | [single] => some ⟨hexNat single, hexNat single, image (hexNat single) (hexNat single)⟩
  | [first, last] => some ⟨hexNat first, hexNat last, image (hexNat first) (hexNat last)⟩
  | _ => none

def ofTable (table : String) : CodeMap :=
  ⟨(CodeRanges.pieces Char.isWhitespace table.toList).filterMap fun piece =>
    match CodeRanges.pieces (· = ':') piece, CodeRanges.pieces (· = '/') piece with
    | [range, image], _ =>
      let codes := (CodeRanges.pieces (· = '.') image).map hexNat
      entry? range fun first last =>
        match codes with
        | [start] => if first = last then .sequence codes else .run start
        | _ => .sequence codes
    | _, [range, step] => entry? range fun _ _ => .alternate (hexNat step)
    | _, _ => none⟩

/-- Where an entry sends a code point of its range. -/
def CodeMapEntry.imageOf (e : CodeMapEntry) (code : Nat) : Option (List Nat) :=
  match e.image with
  | .sequence codes => some codes
  | .run start => some [start + (code - e.first)]
  | .alternate step => if (code - e.first) % 2 = 0 then some [code + step] else none

/-- The sequence a code point is sent to, if the map says anything about it. -/
def find? (m : CodeMap) (code : Nat) : Option (List Nat) :=
  (m.entries.find? fun e => e.first ≤ code && code ≤ e.last).bind (CodeMapEntry.imageOf · code)

end CodeMap

end ChannelFeed
