import ChannelFeed.Domain.Direction
import ChannelFeed.Domain.Joining
import ChannelFeed.Domain.Mapping
import ChannelFeed.Domain.Punycode
import ChannelFeed.Text.Normal
import ChannelFeed.Text.Utf8

/-!
# Domain names in ASCII

The form of a domain name that is sent to name servers. Characters are mapped and normalized, every label
is checked, and labels beyond ASCII are written in Punycode behind `xn--`. Hyphens may stand anywhere and
labels may be empty or long; only what has to be converted has a limit.
-/

namespace ChannelFeed.Domain

/-- What a character becomes; `none` if no domain name may hold it. -/
def mapCode? (code : Nat) : Option (List Nat) :=
  let c := Char.ofNat code
  if code < 0x80 then some [c.toLower.toNat]
  else if ignored.contains c then some []
  else if disallowed.contains c then none
  else some ((mapped.find? code).getD [code])

/-- Whether a character may stand in a label as it is. -/
def isValidCode (code : Nat) : Bool := mapCode? code == some [code]

def labels (codes : List Nat) : List (List Nat) :=
  codes.foldr (fun code acc =>
    if code = '.'.toNat then [] :: acc
    else match acc with
      | [] => [[code]]
      | label :: rest => (code :: label) :: rest) [[]]

/-- A mark that ties the letters of a cluster together. -/
def isVirama (code : Nat) : Bool := Text.combiningClass code == 9

/-- Whether a letter that joins the next one comes before, looking through transparent characters. The
text before is given from its end backwards. -/
def joinedBefore (before : List Nat) : Bool :=
  match before.dropWhile fun code => transparent.contains (Char.ofNat code) with
  | [] => false
  | code :: _ => joinsLeft.contains (Char.ofNat code) || joinsBoth.contains (Char.ofNat code)

def joinedAfter (after : List Nat) : Bool :=
  match after.dropWhile fun code => transparent.contains (Char.ofNat code) with
  | [] => false
  | code :: _ => joinsRight.contains (Char.ofNat code) || joinsBoth.contains (Char.ofNat code)

/-- Joiners follow a virama; a non-joiner may also stand between letters that would join. -/
def joinersValid (before : List Nat) : List Nat → Bool
  | [] => true
  | code :: after =>
    let tied := match before with
      | last :: _ => isVirama last
      | [] => false
    let ok :=
      if code = 0x200D then tied
      else if code = 0x200C then tied || (joinedBefore before && joinedAfter after)
      else true
    ok && joinersValid (code :: before) after

inductive Direction where
  | left
  | right
  | arabicNumber
  | europeanNumber
  | numberSign
  | neutral
  | mark
  | separator
deriving DecidableEq

def direction (code : Nat) : Direction :=
  let c := Char.ofNat code
  if rightToLeft.contains c || arabicLetters.contains c then .right
  else if arabicNumbers.contains c then .arabicNumber
  else if europeanNumbers.contains c then .europeanNumber
  else if numberSigns.contains c then .numberSign
  else if neutrals.contains c then .neutral
  else if nonspacing.contains c then .mark
  else if separators.contains c then .separator
  else .left

/-- The rule for labels of a name in which something runs from right to left: a label begins with a
letter, keeps to its direction, and ends with a letter or number of it. -/
def directionValid (label : List Nat) : Bool :=
  let ds := label.map direction
  let last := (ds.reverse.dropWhile (· = .mark)).head?
  match ds with
  | [] => true
  | .left :: _ =>
    ds.all (fun d => d ≠ .right ∧ d ≠ .arabicNumber ∧ d ≠ .separator) &&
      (last = some .left || last = some .europeanNumber)
  | .right :: _ =>
    ds.all (fun d => d ≠ .left ∧ d ≠ .separator) &&
      !(ds.contains .europeanNumber && ds.contains .arabicNumber) &&
      (last = some .right || last = some .europeanNumber || last = some .arabicNumber)
  | _ => false

/-- Whether anything in a name runs from right to left. -/
def isBidirectional (labels : List (List Nat)) : Bool :=
  labels.any fun label => label.any fun code =>
    direction code = .right || direction code = .arabicNumber

def punycodeMark : List Nat := "xn--".toList.map Char.toNat

def maxLabel : Nat := 1000

def maxPunycode : Nat := 2000

/-- Whether a label beyond ASCII is valid: not too long, normalized, without a mark in front, made of valid
characters and with its joiners in place. -/
def labelValid (label : List Nat) : Bool :=
  label.length ≤ maxLabel && Text.normalize label == label &&
    (match label with
      | [] => true
      | first :: _ => !marks.contains (Char.ofNat first)) &&
    label.all isValidCode && joinersValid [] label

/-- A label as it is meant. One in Punycode is decoded and must hold something beyond ASCII. -/
def unicodeLabel? (label : List Nat) : Option (List Nat) :=
  if punycodeMark.isPrefixOf label then
    if maxPunycode < label.length - 4 then none
    else (Punycode.decode? ((label.drop 4).map Char.ofNat)).bind fun decoded =>
      if decoded.all (· < 0x80) || !labelValid decoded then none else some decoded
  else if label.all (· < 0x80) || labelValid label then some label
  else none

def asciiLabel (label : List Nat) : List Char :=
  if label.all (· < 0x80) then label.map Char.ofNat else "xn--".toList ++ Punycode.encode label

/-- The characters that stand for something else in a URL and so cannot be part of a host. -/
def isForbidden (c : Char) : Bool :=
  c.toNat ≤ 0x20 || c.toNat == 0x7F || "%#/:<>?@[\\]^|".toList.contains c

/-- The domain name in ASCII, or `none` where the text is no domain name. -/
def toAscii? (name : List Char) : Option (List Char) := do
  let codes ← name.mapM fun c => mapCode? c.toNat
  let labels ← (labels (Text.normalize codes.flatten)).mapM unicodeLabel?
  if isBidirectional labels && !labels.all directionValid then none
  let ascii := ['.'].intercalate (labels.map asciiLabel)
  if ascii.any isForbidden then none else some ascii

end ChannelFeed.Domain
