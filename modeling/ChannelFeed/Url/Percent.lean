import ChannelFeed.Text.CodeRanges
import ChannelFeed.Text.Utf8

/-!
# Percent encoding

Bytes that have no place in a part of a URL are written as a percent sign and two digits. Which ones
depends on the part; controls, DEL and everything beyond ASCII are always among them.
-/

namespace ChannelFeed.Url

/-- The characters that are encoded in one part of a URL, besides those that always are. -/
structure EncodeSet where
  chars : List Char

namespace EncodeSet

def none : EncodeSet := ⟨[]⟩

def fragment : EncodeSet := ⟨[' ', '"', '<', '>', '\x60']⟩

def query : EncodeSet := ⟨[' ', '"', '#', '<', '>']⟩

def specialQuery : EncodeSet := ⟨'\'' :: query.chars⟩

def path : EncodeSet := ⟨fragment.chars ++ ['#', '?', '\x7b', '\x7d']⟩

def segment : EncodeSet := ⟨path.chars ++ ['/', '%']⟩

/-- One segment of the path of a URL of a known scheme, where a backslash also parts segments. -/
def specialSegment : EncodeSet := ⟨'\\' :: segment.chars⟩

def userInfo : EncodeSet := ⟨path.chars ++ ['/', ':', ';', '=', '@', '[', '\\', ']', '^', '|']⟩

def contains (set : EncodeSet) (c : Char) : Bool :=
  c.toNat < 0x20 || 0x7F ≤ c.toNat || set.chars.contains c

end EncodeSet

def percentByte (b : UInt8) : List Char :=
  ['%', upperHexDigit (b.toNat / 16), upperHexDigit (b.toNat % 16)]

def encodeChar (set : EncodeSet) (c : Char) : List Char :=
  if set.contains c then (String.utf8EncodeChar c).flatMap percentByte else [c]

/-- A text as it stands in a part of a URL. -/
def percentEncode (set : EncodeSet) (cs : List Char) : List Char := cs.flatMap (encodeChar set)

/-- The bytes that a text with percent signs stands for. A percent sign without two digits behind it
stands for itself. -/
def percentDecode : List Char → List UInt8
  | [] => []
  | '%' :: a :: b :: rest =>
    match hexDigit? a, hexDigit? b with
    | some high, some low => UInt8.ofNat (high * 16 + low) :: percentDecode rest
    | _, _ => 37 :: percentDecode (a :: b :: rest)
  | c :: rest => String.utf8EncodeChar c ++ percentDecode rest

end ChannelFeed.Url
