import ChannelFeed.Text.CodeRanges

/-!
# The grammar of JSON

Which texts hold a value, whoever reads them. Values may be nested to any depth and numbers may be of any size. The
escapes in a string need not form characters; where they do, the string spells a text.
-/

namespace ChannelFeed.Json.Grammar

def Blanks (text : List Char) : Prop := ∀ c ∈ text, c ∈ [' ', '\t', '\n', '\r']

theorem Blanks.nil : Blanks [] := fun _ none => absurd none List.not_mem_nil

/-- The escapes of one letter, and what they stand for. -/
def escapes : List (Char × Char) :=
  [('"', '"'), ('\\', '\\'), ('/', '/'), ('b', '\x08'), ('f', '\x0c'), ('n', '\n'), ('r', '\r'), ('t', '\t')]

/-- A character that may stand for itself in a string. -/
def IsPlain (c : Char) : Prop := 0x20 ≤ c.toNat ∧ c ≠ '"' ∧ c ≠ '\\'

/-- Four hexadecimal digits and the number they form. -/
def Hex (digits : List Char) (n : Nat) : Prop :=
  ∃ i j k l, digits.map hexDigit? = [some i, some j, some k, some l] ∧ n = ((i * 16 + j) * 16 + k) * 16 + l

/-- What may stand between quotes. -/
inductive BodyText : List Char → Prop
  | nil : BodyText []
  | plain {c : Char} {text : List Char} (plain : IsPlain c) (more : BodyText text) : BodyText (c :: text)
  | escape {letter c : Char} {text : List Char} (known : (letter, c) ∈ escapes) (more : BodyText text) :
    BodyText ('\\' :: letter :: text)
  | hex {digits text : List Char} {n : Nat} (hex : Hex digits n) (more : BodyText text) :
    BodyText ('\\' :: 'u' :: (digits ++ text))

/-- What stands between quotes spells a text. Characters beyond the first plane may be escaped in two halves. -/
inductive Spells : List Char → List Char → Prop
  | nil : Spells [] []
  | plain {c : Char} {text cs : List Char} (plain : IsPlain c) (more : Spells text cs) : Spells (c :: text) (c :: cs)
  | escape {letter c : Char} {text cs : List Char} (known : (letter, c) ∈ escapes) (more : Spells text cs) :
    Spells ('\\' :: letter :: text) (c :: cs)
  | hex {digits text cs : List Char} {n : Nat} (hex : Hex digits n) (whole : n < 0xD800 ∨ 0xDFFF < n)
    (more : Spells text cs) : Spells ('\\' :: 'u' :: (digits ++ text)) (Char.ofNat n :: cs)
  | pair {digits others text cs : List Char} {high low : Nat} (first : Hex digits (0xD800 + high))
    (second : Hex others (0xDC00 + low)) (highBits : high < 0x400) (lowBits : low < 0x400) (more : Spells text cs) :
    Spells ('\\' :: 'u' :: (digits ++ '\\' :: 'u' :: (others ++ text)))
      (Char.ofNat (0x10000 + high * 0x400 + low) :: cs)

def SpellsName (text : List Char) (name : String) : Prop := Spells text name.toList

def Digits (text : List Char) : Prop := text ≠ [] ∧ ∀ c ∈ text, c.isDigit = true

/-- The digits before the point: zero alone, or no zero at the beginning. -/
def IntegerText (text : List Char) : Prop := text = ['0'] ∨ (Digits text ∧ text.head? ≠ some '0')

inductive FractionText : List Char → Prop
  | none : FractionText []
  | digits {text : List Char} (digits : Digits text) : FractionText ('.' :: text)

inductive ExponentText : List Char → Prop
  | none : ExponentText []
  | digits {letter : Char} {sign text : List Char} (isLetter : letter = 'e' ∨ letter = 'E')
    (isSign : sign ∈ [[], ['+'], ['-']]) (digits : Digits text) : ExponentText (letter :: (sign ++ text))

/-- A number without its sign. -/
inductive NumeralText : List Char → Prop
  | parts {integer fraction exponent : List Char} (digits : IntegerText integer) (behindPoint : FractionText fraction)
    (scale : ExponentText exponent) : NumeralText (integer ++ (fraction ++ exponent))

/-- What stands before an item or member: blanks, and a comma unless it is the first. -/
inductive Parted : (first : Bool) → List Char → Prop
  | first {gap : List Char} (blank : Blanks gap) : Parted true gap
  | comma {gap behind : List Char} (blank : Blanks gap) (also : Blanks behind) : Parted false (gap ++ ',' :: behind)

/-- The items of an array and its closing bracket. -/
inductive ItemsText : (first : Bool) → (values : List (List Char)) → List Char → Prop
  | none {first : Bool} {gap : List Char} (blank : Blanks gap) : ItemsText first [] (gap ++ [']'])
  | one {first : Bool} {parting value text : List Char} {values : List (List Char)} (parted : Parted first parting)
    (more : ItemsText false values text) : ItemsText first (value :: values) (parting ++ (value ++ text))

/-- The members of an object and its closing brace. What stands between the quotes of a key is a key `κ`. -/
inductive MembersText {κ : Type} (IsKey : List Char → κ → Prop) :
    (first : Bool) → (members : List (κ × List Char)) → List Char → Prop
  | none {first : Bool} {gap : List Char} (blank : Blanks gap) : MembersText IsKey first [] (gap ++ ['\x7d'])
  | one {first : Bool} {parting body gap behind value text : List Char} {key : κ} {members : List (κ × List Char)}
    (parted : Parted first parting) (isKey : IsKey body key) (blank : Blanks gap) (also : Blanks behind)
    (more : MembersText IsKey false members text) :
    MembersText IsKey first ((key, value) :: members)
      (parting ++ '"' :: (body ++ '"' :: (gap ++ ':' :: (behind ++ (value ++ text)))))

/-- A value. -/
inductive ValueText : List Char → Prop
  | null : ValueText ['n', 'u', 'l', 'l']
  | yes : ValueText ['t', 'r', 'u', 'e']
  | no : ValueText ['f', 'a', 'l', 's', 'e']
  | natural {text : List Char} (numeral : NumeralText text) : ValueText text
  | negative {text : List Char} (numeral : NumeralText text) : ValueText ('-' :: text)
  | string {text : List Char} (body : BodyText text) : ValueText ('"' :: (text ++ ['"']))
  | array {values : List (List Char)} {text : List Char} (inside : ItemsText true values text)
    (each : ∀ value ∈ values, ValueText value) : ValueText ('[' :: text)
  | object {members : List (Unit × List Char)} {text : List Char}
    (inside : MembersText (fun body _ => BodyText body) true members text)
    (each : ∀ member ∈ members, ValueText member.2) : ValueText ('\x7b' :: text)

/-- A text that holds an object with these members and nothing else, each with its name and its value as it is
written. -/
def ObjectText (members : List (String × List Char)) (text : List Char) : Prop :=
  ∃ before inside behind, Blanks before ∧ Blanks behind ∧
    MembersText SpellsName true members inside ∧
    text = before ++ '\x7b' :: (inside ++ behind)

end ChannelFeed.Json.Grammar
