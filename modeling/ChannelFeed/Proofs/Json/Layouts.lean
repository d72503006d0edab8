import ChannelFeed.Proofs.Json.Doubles
import ChannelFeed.Proofs.Json.Strings

/-!
# Values in a layout

The two forms in which values are written differ in their blanks only. They are one form with the blanks
left open, so that what is shown of reading it back is shown of both.
-/

namespace ChannelFeed.Json

/-- The blanks between tokens. -/
structure Layout where
  /-- In front of an item, a member or a closing bracket that stands so many levels in. -/
  gap : (level : Nat) → List Char
  space : List Char
  blankGap (level : Nat) : Reader.Blank (Utf8.encode (gap level))
  blankSpace : Reader.Blank (Utf8.encode space)

namespace Layout

theorem blank_newLine (level : Nat) : Reader.Blank (Utf8.encode (newLine level)) := by
  have blanks (n : Nat) : Reader.Blank (Utf8.encode (List.replicate n ' ')) := by
    induction n with
    | zero => exact .nil
    | succ n ih => exact List.forall_mem_cons.mpr ⟨rfl, ih⟩
  exact List.forall_mem_cons.mpr ⟨rfl, blanks _⟩

def dense : Layout where
  gap _ := []
  space := []
  blankGap _ := .nil
  blankSpace := .nil

/-- A line for each item and member. -/
def lines : Layout where
  gap := newLine
  space := [' ']
  blankGap := blank_newLine
  blankSpace := List.forall_mem_singleton.mpr rfl

mutual

/-- A value that stands so many levels in. -/
def chars (layout : Layout) (level : Nat) : Json → List Char
  | .array [] => ['[', ']']
  | .array (x :: xs) =>
    '[' :: layout.gap (level + 1) ++ chars layout (level + 1) x ++ items layout (level + 1) xs ++
      layout.gap level ++ [']']
  | .object [] => ['\x7b', '\x7d']
  | .object ((k, x) :: ms) =>
    '\x7b' :: layout.gap (level + 1) ++ stringText k ++ ':' :: layout.space ++ chars layout (level + 1) x ++
      members layout (level + 1) ms ++ layout.gap level ++ ['\x7d']
  | .null => ['n', 'u', 'l', 'l']
  | .bool true => ['t', 'r', 'u', 'e']
  | .bool false => ['f', 'a', 'l', 's', 'e']
  | .integer n => intText n.value
  | .double x => x.text
  | .string s => stringText s

def items (layout : Layout) (level : Nat) : List Json → List Char
  | [] => []
  | x :: xs => ',' :: layout.gap level ++ chars layout level x ++ items layout level xs

/-- The members behind the first one. -/
def members (layout : Layout) (level : Nat) : List (String × Json) → List Char
  | [] => []
  | (k, x) :: ms =>
    ',' :: layout.gap level ++ stringText k ++ ':' :: layout.space ++ chars layout level x ++ members layout level ms

end

mutual

theorem chars_dense (level : Nat) : ∀ v : Json, dense.chars level v = v.compactChars
  | .array [] => rfl
  | .array (x :: xs) => by
    rw [chars, compactChars, chars_dense (level + 1) x, items_dense (level + 1) xs]
    simp only [dense, List.cons_append, List.nil_append, List.append_assoc]
  | .object [] => rfl
  | .object ((k, x) :: ms) => by
    rw [chars, compactChars, chars_dense (level + 1) x, members_dense (level + 1) ms]
    simp only [dense, List.cons_append, List.nil_append, List.append_assoc]
  | .null | .bool true | .bool false | .integer _ | .double _ | .string _ => by rw [chars, compactChars]

theorem items_dense (level : Nat) : ∀ vs : List Json, dense.items level vs = compactItems vs
  | [] => rfl
  | x :: xs => by
    rw [items, compactItems, chars_dense level x, items_dense level xs]
    rfl

theorem members_dense (level : Nat) : ∀ ms : List (String × Json), dense.members level ms = compactMembers ms
  | [] => rfl
  | (k, x) :: ms => by
    rw [members, compactMembers, chars_dense level x, members_dense level ms]
    simp only [dense, List.cons_append, List.nil_append, List.append_assoc]

end

mutual

theorem chars_lines (level : Nat) : ∀ v : Json, lines.chars level v = v.prettyChars level
  | .array [] => rfl
  | .array (x :: xs) => by
    rw [chars, prettyChars, chars_lines (level + 1) x, items_lines (level + 1) xs]
    rfl
  | .object [] => rfl
  | .object ((k, x) :: ms) => by
    rw [chars, prettyChars, chars_lines (level + 1) x, members_lines (level + 1) ms]
    simp only [lines, List.cons_append, List.nil_append, List.append_assoc]
  | .null | .bool true | .bool false | .integer _ | .double _ | .string _ => by rw [chars, prettyChars]

theorem items_lines (level : Nat) : ∀ vs : List Json, lines.items level vs = prettyItems level vs
  | [] => rfl
  | x :: xs => by
    rw [items, prettyItems, chars_lines level x, items_lines level xs]
    rfl

theorem members_lines (level : Nat) : ∀ ms : List (String × Json), lines.members level ms = prettyMembers level ms
  | [] => rfl
  | (k, x) :: ms => by
    rw [members, prettyMembers, chars_lines level x, members_lines level ms]
    simp only [lines, List.cons_append, List.nil_append, List.append_assoc]

end

/-- An item may begin so: with something that neither is a blank nor ends the array. -/
def Begins (text : List UInt8) : Prop :=
  ∃ b rest, text = b :: rest ∧ Reader.isBlank b = false ∧ Char.ofUInt8 b ≠ ']'

theorem begins_of_isWritten {text : List Char} (written : ∀ c ∈ text, Binary64.IsWritten c) (some : text ≠ []) :
    Begins (Utf8.encode text) := by
  cases text with
  | nil => exact absurd rfl some
  | cons c text =>
    have first : Binary64.IsWritten c := written c List.mem_cons_self
    have small := Reader.small_of_isWritten first
    refine ⟨UInt8.ofNat c.toNat, Utf8.encode text, Utf8.encode_ascii small, Reader.visible_of_isWritten first, ?_⟩
    rw [Utf8.ofUInt8_ofNat small]
    rintro rfl
    exact absurd first (by decide)

theorem begins_integer (n : Int) : Begins (Utf8.encode (intText n)) := by
  have digits := Binary64.isWritten_toDigits n.natAbs
  unfold intText
  split
  · exact begins_of_isWritten (List.forall_mem_cons.mpr ⟨.inr (.inr (.inl rfl)), digits⟩) (List.cons_ne_nil _ _)
  · exact begins_of_isWritten digits Nat.toDigits_ne_nil

theorem begins_chars (layout : Layout) (level : Nat) (v : Json) : Begins (Utf8.encode (layout.chars level v)) := by
  cases v with
  | null => exact ⟨110, _, rfl, rfl, by decide⟩
  | bool b =>
    cases b with
    | true => exact ⟨116, _, rfl, rfl, by decide⟩
    | false => exact ⟨102, _, rfl, rfl, by decide⟩
  | integer n => exact begins_integer n.value
  | double x => exact begins_of_isWritten x.isWritten_text x.text_ne_nil
  | string s => exact ⟨34, _, rfl, rfl, by decide⟩
  | array items => cases items <;> exact ⟨91, _, rfl, rfl, by decide⟩
  | object members => cases members <;> exact ⟨123, _, rfl, rfl, by decide⟩

end Layout

end ChannelFeed.Json
