import ChannelFeed.Json.Reader
import ChannelFeed.Text.Utf8

/-!
# String bodies

What stands between the quotes of a JSON string. A body is read to its closing quote first; whether its
bytes are well-formed UTF-8 is judged afterwards. A body that is passed over is not judged at all, and
its escapes need not form characters.
-/

namespace ChannelFeed.Json.Reader

/-- The four digits of a hexadecimal escape. They are taken even if they are no digits. -/
def hexEscape : Reader Nat := fun c =>
  match c.rest with
  | a :: b :: d :: e :: _ =>
    let after := c.skip 4
    match [a, b, d, e].mapM fun x => hexDigit? (Char.ofUInt8 x) with
    | some digits => .ok (digits.foldl (· * 16 + ·) 0, after)
    | none => .error ⟨.badEscape, some after.place⟩
  | rest => .error ⟨.endInString, some (c.skip rest.length).place⟩

def isHighSurrogate (n : Nat) : Bool := 0xD800 ≤ n && n ≤ 0xDBFF

def isLowSurrogate (n : Nat) : Bool := 0xDC00 ≤ n && n ≤ 0xDFFF

/-- The next byte must be the given one. A string that ends here is cut off. -/
def hexEscapeByte (expected : Char) : Reader Unit := do
  match ← look with
  | none => fail .endInString
  | some c =>
    advance
    if c = expected then pure () else fail .hexEscapeCutOff

/-- A character written as one hexadecimal escape or, beyond the first plane, as a pair of surrogates. -/
def unicodeEscape : Reader Char := do
  let n ← hexEscape
  if isLowSurrogate n then fail .loneSurrogate
  else if isHighSurrogate n then
    hexEscapeByte '\\'
    hexEscapeByte 'u'
    let m ← hexEscape
    if isLowSurrogate m then
      return Char.ofNat (0x10000 + (n - 0xD800) * 0x400 + (m - 0xDC00))
    else fail .loneSurrogate
  else return Char.ofNat n

/-- The character of an escape whose letter is given, unless it is a hexadecimal one. -/
def simpleEscape? : Char → Option Char
  | '"' => some '"'
  | '\\' => some '\\'
  | '/' => some '/'
  | 'b' => some '\x08'
  | 'f' => some '\x0c'
  | 'n' => some '\n'
  | 'r' => some '\r'
  | 't' => some '\t'
  | _ => none

def escape : Reader Char := do
  match ← next with
  | none => fail .endInString
  | some 'u' => unicodeEscape
  | some letter =>
    match simpleEscape? letter with
    | some c => return c
    | none => fail .badEscape

/-- The bytes of a body up to its closing quote, which is taken. -/
def bodyBytes : (bound : Nat) → Reader (List UInt8)
  | 0 => fail .endInString
  | bound + 1 => fun c =>
    match c.rest with
    | [] => fail .endInString c
    | b :: _ =>
      let after := c.advance
      match Char.ofUInt8 b with
      | '"' => .ok ([], after)
      | '\\' => do
        let (char, after) ← escape after
        let (bytes, after) ← bodyBytes bound after
        return (String.utf8EncodeChar char ++ bytes, after)
      | _ =>
        if b < 32 then .error ⟨.controlCharacter, some after.place⟩
        else do
          let (bytes, after) ← bodyBytes bound after
          return (b :: bytes, after)

/-- The text of a body, its opening quote being taken. Malformed bytes are reported as far before the end
of the body as there are bytes from them on, escapes being resolved. -/
def stringBody : Reader String := fun c => do
  let (bytes, after) ← bodyBytes (c.rest.length + 1) c
  match Utf8.text? bytes with
  | some s => return (s, after)
  | none => .error ⟨.badCodePoint, some (after.place.back (bytes.length - Utf8.validLength bytes))⟩

def passEscape : Reader Unit := do
  match ← next with
  | none => fail .endInString
  | some 'u' =>
    let _ ← hexEscape
    return
  | some letter => if (simpleEscape? letter).isSome then return else fail .badEscape

/-- Passes over a body up to its closing quote, which is taken. -/
def passBody : (bound : Nat) → Reader Unit
  | 0 => fail .endInString
  | bound + 1 => fun c =>
    match c.rest with
    | [] => fail .endInString c
    | b :: _ =>
      match Char.ofUInt8 b with
      | '"' => .ok ((), c.advance)
      | '\\' => do
        let ((), after) ← passEscape c.advance
        passBody bound after
      | _ =>
        if b < 32 then .error ⟨.controlCharacter, some c.place⟩
        else passBody bound c.advance

def passString : Reader Unit := fun c => passBody (c.rest.length + 1) c

end ChannelFeed.Json.Reader
