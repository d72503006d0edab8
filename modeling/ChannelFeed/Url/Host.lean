import ChannelFeed.Domain.Ascii
import ChannelFeed.Url.Percent

/-!
# Hosts

The host of a URL is a domain name, an address, or an uninterpreted name where the scheme is unknown.
Addresses are held as numbers and have one way to be written.
-/

namespace ChannelFeed.Url

/-- Why a text is no URL, or no URL of a service. -/
inductive Fault where
  | noBase
  | noBasePath
  | emptyHost
  | badPort
  | badIpv4
  | badIpv6
  | badDomain
  | badDomainCharacter
  | noSegments
deriving DecidableEq, Repr

def Fault.message : Fault → String
  | .noBase => "relative URL without a base"
  | .noBasePath => "relative URL with a cannot-be-a-base base"
  | .emptyHost => "empty host"
  | .badPort => "invalid port number"
  | .badIpv4 => "invalid IPv4 address"
  | .badIpv6 => "invalid IPv6 address"
  | .badDomain => "invalid international domain name"
  | .badDomainCharacter => "invalid domain character"
  | .noSegments => "URL cannot have path segments"

inductive Host where
  /-- A domain name, or a name that means nothing to us; it may be empty. -/
  | name (text : List Char)
  | ipv4 (address : Nat)
  /-- Eight numbers of sixteen bits. -/
  | ipv6 (pieces : List Nat)
deriving DecidableEq, Repr

/-- A part of an address: hexadecimal behind `0x`, octal behind `0`, else decimal. The inner `none` is a
number that no address can hold. -/
def ipv4Number? (part : List Char) : Option Nat :=
  let number (radix : Nat) (digits : List Char) : Option Nat :=
    digits.foldlM (fun n c => (hexDigit? c).bind fun d =>
      if d < radix then some (n * radix + d) else none) 0
  match part with
  | [] => none
  | '0' :: 'x' :: digits | '0' :: 'X' :: digits => number 16 digits
  | '0' :: c :: digits => number 8 (c :: digits)
  | digits => number 10 digits

def nameParts (name : List Char) : List (List Char) :=
  let parts := CodeRanges.pieces (· = '.') name
  if parts.length > 1 ∧ parts.getLast? = some [] then parts.dropLast else parts

/-- Whether the last part of a name is a number, so that the name must be an address. -/
def endsInNumber (name : List Char) : Bool :=
  match (nameParts name).getLast? with
  | none | some [] => false
  | some part => part.all (fun c => '0' ≤ c ∧ c ≤ '9') || (ipv4Number? part).isSome

/-- The address written as up to four numbers, the last of which fills what the others leave. -/
def ipv4? (name : List Char) : Option Nat := do
  let parts := nameParts name
  if parts.length > 4 then none
  let numbers ← parts.mapM ipv4Number?
  let last ← numbers.getLast?
  let others := numbers.dropLast
  if others.any (255 < ·) then none
  if Nat.pow 256 (4 - others.length) ≤ last then none
  some (((List.range others.length).zipWith (fun i n => n * Nat.pow 256 (3 - i)) others).foldl Nat.add last)

def ipv4Text (address : Nat) : List Char :=
  ['.'].intercalate ([3, 2, 1, 0].map fun i => Nat.toDigits 10 (address / Nat.pow 256 i % 256))

/-- The last two pieces of an address when they are written as four decimal bytes. -/
def embeddedIpv4? (text : List Char) : Option (List Nat) := do
  let bytes ← (CodeRanges.pieces (· = '.') text).mapM fun part =>
    if part.isEmpty || part.length > 3 || !part.all (fun c => '0' ≤ c ∧ c ≤ '9') then none
    else if part.length > 1 ∧ part.head? = some '0' then none
    else
      let n := part.foldl (fun n c => n * 10 + (c.toNat - '0'.toNat)) 0
      if n ≤ 255 then some n else none
  match bytes with
  | [a, b, c, d] => some [a * 256 + b, c * 256 + d]
  | _ => none

/-- Pieces with a colon between two of them. The last may be an address of four bytes. -/
def ipv6Pieces? : List (List Char) → Option (List Nat)
  | [] => some []
  | [last] =>
    if last.contains '.' then embeddedIpv4? last
    else if last.isEmpty || last.length > 4 then none
    else (last.mapM hexDigit?).map fun ds => [ds.foldl (· * 16 + ·) 0]
  | piece :: rest =>
    if piece.isEmpty || piece.length > 4 then none
    else do
      let ds ← piece.mapM hexDigit?
      return ds.foldl (· * 16 + ·) 0 :: (← ipv6Pieces? rest)

/-- The parts of a text before and behind its first double colon. -/
def splitDoubleColon : List Char → Option (List Char × List Char)
  | ':' :: ':' :: rest => some ([], rest)
  | c :: rest => (splitDoubleColon rest).map fun (before, after) => (c :: before, after)
  | [] => none

/-- The address in a text. A double colon stands for at least one piece of zero. -/
def ipv6? (text : List Char) : Option (List Nat) :=
  let pieces (part : List Char) : Option (List Nat) :=
    if part.isEmpty then some [] else ipv6Pieces? (CodeRanges.pieces (· = ':') part)
  match splitDoubleColon text with
  | none => (pieces text).filter (·.length = 8)
  | some (before, after) => do
    if before.contains '.' then none
    let front ← pieces before
    let back ← pieces after
    if front.length + back.length > 7 then none
    else some (front ++ List.replicate (8 - front.length - back.length) 0 ++ back)

/-- The first of the longest runs of at least two zeros: where it begins and its length. -/
def longestZeros (pieces : List Nat) : Option (Nat × Nat) :=
  let runs := (List.range pieces.length).map fun i => (i, ((pieces.drop i).takeWhile (· = 0)).length)
  runs.foldl (fun best (i, n) =>
    match best with
    | some (_, m) => if m < n then some (i, n) else best
    | none => if 2 ≤ n then some (i, n) else none) none

/-- An address of sixteen bytes as text. -/
def ipv6Text (pieces : List Nat) : List Char :=
  let text (ps : List Nat) := [':'].intercalate (ps.map (Nat.toDigits 16))
  match longestZeros pieces with
  | none => text pieces
  | some (start, length) => text (pieces.take start) ++ "::".toList ++ text (pieces.drop (start + length))

def Host.text : Host → List Char
  | .name text => text
  | .ipv4 address => ipv4Text address
  | .ipv6 pieces => '[' :: ipv6Text pieces ++ [']']

def bracketed? (inside : List Char) : Except Fault Host :=
  match inside.getLast?, ipv6? inside.dropLast with
  | some ']', some pieces => .ok (.ipv6 pieces)
  | _, _ => .error .badIpv6

/-- The host of a URL of a known scheme. -/
def Host.ofText (text : List Char) : Except Fault Host :=
  match text with
  | '[' :: inside => bracketed? inside
  | _ =>
    match (Utf8.decode (percentDecode text)).bind Domain.toAscii? with
    | none => .error .badDomain
    | some [] => .error .emptyHost
    | some ascii =>
      if endsInNumber ascii then
        match ipv4? ascii with
        | some address => .ok (.ipv4 address)
        | none => .error .badIpv4
      else .ok (.name ascii)

/-- The characters that cannot be part of a host even where it means nothing to us. -/
def isForbiddenInName (c : Char) : Bool :=
  "\x00\t\n\r #/:<>?@[\\]^|".toList.contains c

/-- The host of a URL of an unknown scheme. -/
def Host.ofOpaque (text : List Char) : Except Fault Host :=
  match text with
  | '[' :: inside => bracketed? inside
  | _ =>
    if text.any isForbiddenInName then .error .badDomainCharacter
    else .ok (.name (percentEncode .none text))

end ChannelFeed.Url
