import ChannelFeed.Json.Fault

/-!
# Reading bytes

A reader takes bytes from the front of what is left of a text and keeps count of its place. A fault is
put either where the reader stands or, when it was seen by looking ahead, behind the byte looked at.
-/

namespace ChannelFeed.Json

/-- What is left of a text and where it begins. -/
structure Cursor where
  place : Position
  rest : List UInt8

def Cursor.start (bytes : List UInt8) : Cursor := ⟨.start, bytes⟩

def Cursor.advance (c : Cursor) : Cursor :=
  match c.rest with
  | [] => c
  | b :: rest => ⟨c.place.after b, rest⟩

def Cursor.ahead (c : Cursor) : Position := c.advance.place

def Cursor.skip (c : Cursor) : Nat → Cursor
  | 0 => c
  | n + 1 => c.advance.skip n

abbrev Reader := StateT Cursor (Except Fault)

namespace Reader

variable {α : Type}

def fail (cause : Cause) : Reader α := fun c => .error ⟨cause, some c.place⟩

def failAhead (cause : Cause) : Reader α := fun c => .error ⟨cause, some c.ahead⟩

/-- The next byte as a character, without taking it. -/
def look : Reader (Option Char) := fun c => .ok (c.rest.head?.map Char.ofUInt8, c)

def advance : Reader Unit := fun c => .ok ((), c.advance)

def next : Reader (Option Char) := fun c => .ok (c.rest.head?.map Char.ofUInt8, c.advance)

def left : Reader Nat := fun c => .ok (c.rest.length, c)

/-- Blank, line feed, tab and carriage return may stand between tokens. -/
def isBlank (b : UInt8) : Bool := b == 32 || b == 10 || b == 9 || b == 13

def blanksFrom (p : Position) : List UInt8 → Cursor
  | [] => ⟨p, []⟩
  | b :: rest => if isBlank b then blanksFrom (p.after b) rest else ⟨p, b :: rest⟩

def blanks : Reader Unit := fun c => .ok ((), blanksFrom c.place c.rest)

def token : Reader (Option Char) := do
  blanks
  look

def word : List Char → Reader Unit
  | [] => pure ()
  | letter :: rest => do
    match ← next with
    | none => fail .endInValue
    | some c => if c = letter then word rest else fail .noWord

end Reader

end ChannelFeed.Json
