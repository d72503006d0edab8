/-!
# Sets of code points

A set of code points is a list of closed ranges. Tables are written as text: hexadecimal ranges such as
`300-36F`, or single code points, with blanks or line breaks between them.
-/

namespace ChannelFeed

def hexDigit? (c : Char) : Option Nat :=
  if '0' ≤ c ∧ c ≤ '9' then some (c.toNat - '0'.toNat)
  else if 'a' ≤ c ∧ c ≤ 'f' then some (c.toNat - 'a'.toNat + 10)
  else if 'A' ≤ c ∧ c ≤ 'F' then some (c.toNat - 'A'.toNat + 10)
  else none

/-- The number written by hexadecimal digits; other characters are passed over. -/
def hexNat (cs : List Char) : Nat :=
  cs.foldl (fun n c => match hexDigit? c with
    | some d => n * 16 + d
    | none => n) 0

def upperHexDigit (n : Nat) : Char := (Nat.digitChar n).toUpper

/-- Closed ranges of code points. -/
structure CodeRanges where
  ranges : List (Nat × Nat)

namespace CodeRanges

def pieces (isSeparator : Char → Bool) (cs : List Char) : List (List Char) :=
  cs.foldr (fun c acc =>
    if isSeparator c then [] :: acc
    else match acc with
      | [] => [[c]]
      | piece :: rest => (c :: piece) :: rest) [[]]

def ofTable (table : String) : CodeRanges :=
  ⟨(pieces Char.isWhitespace table.toList).filterMap fun piece =>
    match pieces (· = '-') piece with
    | [first, last] => some (hexNat first, hexNat last)
    | [single] => if single.isEmpty then none else some (hexNat single, hexNat single)
    | _ => none⟩

def contains (set : CodeRanges) (c : Char) : Bool :=
  set.ranges.any fun (first, last) => first ≤ c.toNat && c.toNat ≤ last

end CodeRanges

end ChannelFeed
