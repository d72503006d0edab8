/-!
# UTF-8

Encoding of characters as bytes and strict decoding: no overlong forms, no surrogates, nothing beyond
the last code point. Decoding goes byte by byte; what a lead byte still owes is kept in a `Pending`.
-/

namespace ChannelFeed.Utf8

def encode (cs : List Char) : List UInt8 := cs.flatMap String.utf8EncodeChar

/-- What is still owed of a character: how many bytes, the range the next one must lie in, and the bits
read so far. -/
structure Pending where
  owed : Nat
  low : UInt8
  high : UInt8
  bits : Nat

/-- What one byte leads to. -/
inductive Step where
  | char (c : Char)
  | more (pending : Pending)
  | malformed

/-- A byte at the start of a character. The second byte of a three or four byte form has a narrower
range after some lead bytes, which excludes overlong forms, surrogates and numbers that are too large. -/
def lead (b : UInt8) : Step :=
  if b < 0x80 then .char (Char.ofNat b.toNat)
  else if b < 0xC2 then .malformed
  else if b < 0xE0 then .more ⟨1, 0x80, 0xBF, b.toNat - 0xC0⟩
  else if b < 0xF0 then
    .more ⟨2, if b = 0xE0 then 0xA0 else 0x80, if b = 0xED then 0x9F else 0xBF, b.toNat - 0xE0⟩
  else if b < 0xF5 then
    .more ⟨3, if b = 0xF0 then 0x90 else 0x80, if b = 0xF4 then 0x8F else 0xBF, b.toNat - 0xF0⟩
  else .malformed

def Pending.take (p : Pending) (b : UInt8) : Step :=
  if p.low ≤ b ∧ b ≤ p.high then
    let bits := p.bits * 64 + (b.toNat - 0x80)
    if p.owed ≤ 1 then .char (Char.ofNat bits)
    else .more ⟨p.owed - 1, 0x80, 0xBF, bits⟩
  else .malformed

def step : Option Pending → UInt8 → Step
  | none, b => lead b
  | some p, b => p.take b

/-- The characters of well-formed bytes, from the middle of a character if one is pending. -/
def decodeFrom : Option Pending → List UInt8 → Option (List Char)
  | none, [] => some []
  | some _, [] => none
  | pending, b :: rest =>
    match step pending b with
    | .char c => (decodeFrom none rest).map (c :: ·)
    | .more p => decodeFrom (some p) rest
    | .malformed => none

/-- The characters of well-formed bytes. -/
def decode (bytes : List UInt8) : Option (List Char) := decodeFrom none bytes

/-- The length of the longest well-formed beginning, with `whole` bytes of it already counted and
`part` bytes of the pending character. -/
def validLengthFrom (whole part : Nat) : Option Pending → List UInt8 → Nat
  | _, [] => whole
  | pending, b :: rest =>
    match step pending b with
    | .char _ => validLengthFrom (whole + part + 1) 0 none rest
    | .more p => validLengthFrom whole (part + 1) (some p) rest
    | .malformed => whole

/-- How many bytes come before the first one that is not part of a well-formed character. -/
def validLength (bytes : List UInt8) : Nat := validLengthFrom 0 0 none bytes

def text? (bytes : List UInt8) : Option String := (decode bytes).map String.ofList

end ChannelFeed.Utf8
