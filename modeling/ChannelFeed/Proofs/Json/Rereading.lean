import ChannelFeed.Proofs.Json.Layouts
import ChannelFeed.Proofs.Json.Ordered

/-!
# Written values are read back

A value that can have been read is read back from its text, in whatever layout it was written, as long as
its doubles are. Items and members are read by loops; what a loop makes of them follows from what its step
makes of one.
-/

namespace ChannelFeed

/-- A double is read back from its text. -/
def Binary64.Readable (x : Binary64) : Prop := Json.read (Utf8.encode x.text) = .ok (.double x)

namespace Json

/-- The double occurs in the value. -/
inductive HasDouble (x : Binary64) : Json → Prop
  | double : HasDouble x (.double x)
  | item {items : List Json} {v : Json} (there : v ∈ items) (has : HasDouble x v) : HasDouble x (.array items)
  | member {members : Members} {m : String × Json} (there : m ∈ members) (has : HasDouble x m.2) :
    HasDouble x (.object members)

namespace Reader

variable {α β σ : Type} {x : α} {v : Json} {gap after : List UInt8} {layout : Layout} {level : Nat}

theorem Blank.ends (blank : Blank gap) (ends : Ends after) : Ends (gap ++ after) := by
  cases gap with
  | nil => exact ends
  | cons b gap =>
    have isBlank : isBlank b = true := blank b List.mem_cons_self
    simp only [Reader.isBlank, Bool.or_eq_true, beq_iff_eq] at isBlank
    rintro _ ⟨⟩
    rcases isBlank with ((rfl | rfl) | rfl) | rfl <;> decide

theorem Ends.comma : Ends (44 :: after) := by rintro _ ⟨⟩; decide

theorem Ends.bracket : Ends (93 :: after) := by rintro _ ⟨⟩; decide

theorem Ends.brace : Ends (125 :: after) := by rintro _ ⟨⟩; decide

theorem Reads.behind {next : Option Char → Reader α} (blank : Blank gap) {text : List UInt8}
    (read : Reads (Reader.token >>= next) text x after) : Reads (Reader.token >>= next) (gap ++ text) x after := by
  induction gap with
  | nil => exact read
  | cons b gap ih =>
    obtain ⟨isBlank, blank⟩ := List.forall_mem_cons.mp blank
    intro p
    obtain ⟨p', read⟩ := ih blank (p.after b)
    obtain ⟨c, d, known, rest⟩ := bind_eq_ok.mp read
    exact ⟨p', bind_eq_ok.mpr ⟨c, d, (token_blank isBlank).trans known, rest⟩⟩

/-- Of the value, written at any level and with blanks in front, the reader makes `x`. -/
def Rereads (layout : Layout) (reader : Reader α) (v : Json) (x : α) : Prop :=
  ∀ (level : Nat) (gap after : List UInt8), Blank gap → Ends after →
    Reads reader (gap ++ (Utf8.encode (layout.chars level v) ++ after)) x after

theorem Rereads.of_token {next : Option Char → Reader α}
    (read : ∀ level after, Ends after →
      Reads (token >>= next) (Utf8.encode (layout.chars level v) ++ after) x after) :
    Rereads layout (token >>= next) v x :=
  fun level _ after blank ends => (read level after ends).behind blank

theorem Rereads.now {reader : Reader α} (rereads : Rereads layout reader v x) (level : Nat) (ends : Ends after) :
    Reads reader (Utf8.encode (layout.chars level v) ++ after) x after :=
  rereads level [] after .nil ends

theorem encode_items_cons (layout : Layout) (level : Nat) (v : Json) (vs : List Json) (after : List UInt8) :
    Utf8.encode (layout.items level (v :: vs)) ++ after =
      44 :: (Utf8.encode (layout.gap level) ++ (Utf8.encode (layout.chars level v) ++
        (Utf8.encode (layout.items level vs) ++ after))) := by
  rw [Layout.items, Utf8.encode_append, Utf8.encode_append, List.append_assoc, List.append_assoc]
  rfl

theorem ends_items {vs : List Json} (ends : Ends after) : Ends (Utf8.encode (layout.items level vs) ++ after) := by
  cases vs with
  | nil => exact ends
  | cons v vs =>
    rw [encode_items_cons]
    exact .comma

variable {item : Reader α} {written : β → Json} {made : β → α} {ys : List β}

theorem Reads.moreItems (each : ∀ y ∈ ys, Rereads layout item (written y) (made y)) (blank : Blank gap) {bound : Nat}
    (enough : ys.length < bound) :
    Reads (Reader.items item bound false)
      (Utf8.encode (layout.items level (ys.map written)) ++ (gap ++ 93 :: after)) (ys.map made) (93 :: after) := by
  induction ys generalizing bound with
  | nil =>
    cases bound with
    | zero => cases enough
    | succ bound => exact (Reads.noItem false blank).bind Reads.pure
  | cons y ys ih =>
    cases bound with
    | zero => cases enough
    | succ bound =>
      obtain ⟨first, each⟩ := List.forall_mem_cons.mp each
      have rest := ih each (Nat.lt_of_succ_lt_succ enough)
      -- Behind an item stands a comma, or blanks and the bracket: nothing that a numeral goes on with.
      have ends : Ends (Utf8.encode (layout.items level (ys.map written)) ++ (gap ++ 93 :: after)) :=
        ends_items (blank.ends .bracket)
      have one := first.now level ends
      rw [List.map_cons, encode_items_cons]
      obtain ⟨b, text, is, visible, other⟩ := layout.begins_chars level (written y)
      rw [is] at one ⊢
      exact (Reads.nextItem (layout.blankGap level) visible other).bind (one.bind (rest.bind Reads.pure))

theorem length_le_encode_items (layout : Layout) (level : Nat) (vs : List Json) :
    vs.length ≤ (Utf8.encode (layout.items level vs)).length := by
  induction vs with
  | nil => exact Nat.zero_le _
  | cons v vs ih =>
    have text := congrArg List.length (encode_items_cons layout level v vs [])
    simp only [List.append_nil, List.length_cons, List.length_append] at text ⊢
    omega

/-- An array and what its items are read as, its opening bracket being taken. -/
theorem exists_items (each : ∀ y ∈ ys, Rereads layout item (written y) (made y)) (level : Nat) (after : List UInt8) :
    ∃ inside, Utf8.encode (layout.chars level (.array (ys.map written))) ++ after = 91 :: inside ∧
      Reads (Reader.items item inside.length true) inside (ys.map made) (93 :: after) := by
  cases ys with
  | nil => exact ⟨93 :: after, rfl, (Reads.noItem true .nil).bind Reads.pure⟩
  | cons y ys =>
    obtain ⟨first, each⟩ := List.forall_mem_cons.mp each
    have blank := layout.blankGap level
    have ends : Ends (Utf8.encode (layout.items (level + 1) (ys.map written)) ++
        (Utf8.encode (layout.gap level) ++ 93 :: after)) := ends_items (blank.ends .bracket)
    have one := first.now (level + 1) ends
    refine ⟨Utf8.encode (layout.gap (level + 1)) ++ (Utf8.encode (layout.chars (level + 1) (written y)) ++
      (Utf8.encode (layout.items (level + 1) (ys.map written)) ++ (Utf8.encode (layout.gap level) ++ 93 :: after))),
      ?_, ?_⟩
    · rw [List.map_cons, Layout.chars]
      simp only [Utf8.encode_append, List.append_assoc]
      rfl
    · obtain ⟨b, text, is, visible, other⟩ := layout.begins_chars (level + 1) (written y)
      rw [is] at one ⊢
      generalize bound : List.length _ = n
      -- The loop is bounded by the bytes that are left, and each further item has a comma among them.
      have enough : ys.length < n - 1 := by
        have short := length_le_encode_items layout (level + 1) (ys.map written)
        rw [List.length_map] at short
        rw [← bound]
        simp only [List.length_append, List.length_cons]
        omega
      cases n with
      | zero => cases enough
      | succ n =>
        exact (Reads.itemAhead (layout.blankGap (level + 1)) visible other).bind
          (one.bind ((Reads.moreItems each blank enough).bind Reads.pure))

/-- From a member, written at any level, the step behind its key makes `t` of `s`. -/
def MemberRereads (layout : Layout) (member : String → σ → Reader σ) (m : String × Json) (s t : σ) : Prop :=
  ∀ (level : Nat) (after : List UInt8), Ends after →
    Reads (member m.1 s) (58 :: (Utf8.encode layout.space ++ (Utf8.encode (layout.chars level m.2) ++ after))) t after

/-- From all these members, one after the other. -/
inductive MembersReread (layout : Layout) (member : String → σ → Reader σ) : List (String × Json) → σ → σ → Prop
  | nil (s : σ) : MembersReread layout member [] s s
  | cons {m : String × Json} {ms : List (String × Json)} {s t u : σ} (one : MemberRereads layout member m s t)
    (rest : MembersReread layout member ms t u) : MembersReread layout member (m :: ms) s u

variable {member : String → σ → Reader σ} {m : String × Json} {ms : List (String × Json)} {s t : σ}

theorem encode_members_cons (layout : Layout) (level : Nat) (m : String × Json) (ms : List (String × Json))
    (after : List UInt8) :
    Utf8.encode (layout.members level (m :: ms)) ++ after =
      44 :: (Utf8.encode (layout.gap level) ++ 34 :: (Utf8.encode (m.1.toList.flatMap charText) ++ 34 :: 58 ::
        (Utf8.encode layout.space ++ (Utf8.encode (layout.chars level m.2) ++
          (Utf8.encode (layout.members level ms) ++ after))))) := by
  rw [Layout.members, ← encode_stringText]
  simp only [Utf8.encode_append, List.append_assoc]
  rfl

theorem ends_members (ends : Ends after) : Ends (Utf8.encode (layout.members level ms) ++ after) := by
  cases ms with
  | nil => exact ends
  | cons m ms =>
    rw [encode_members_cons]
    exact .comma

theorem Reads.moreMembers (all : MembersReread layout member ms s t) (blank : Blank gap) {bound : Nat}
    (enough : ms.length < bound) :
    Reads (Reader.members member bound false s) (Utf8.encode (layout.members level ms) ++ (gap ++ 125 :: after)) t
      (125 :: after) := by
  induction all generalizing bound with
  | nil s =>
    cases bound with
    | zero => cases enough
    | succ bound => exact (Reads.noMember false blank).bind Reads.pure
  | cons one _ ih =>
    cases bound with
    | zero => cases enough
    | succ bound =>
      rw [encode_members_cons]
      refine (Reads.nextMember (layout.blankGap level)).bind ((Reads.key _).bind ?_)
      exact (one level _ (ends_members (blank.ends .brace))).bind (ih (Nat.lt_of_succ_lt_succ enough))

theorem length_le_encode_members (layout : Layout) (level : Nat) (ms : List (String × Json)) :
    ms.length ≤ (Utf8.encode (layout.members level ms)).length := by
  induction ms with
  | nil => exact Nat.zero_le _
  | cons m ms ih =>
    have text := congrArg List.length (encode_members_cons layout level m ms [])
    simp only [List.append_nil, List.length_cons, List.length_append] at text ⊢
    omega

/-- An object and what its members are read as, its opening brace being taken. -/
theorem exists_members (all : MembersReread layout member ms s t) (level : Nat) (after : List UInt8) :
    ∃ inside, Utf8.encode (layout.chars level (.object ms)) ++ after = 123 :: inside ∧
      Reads (Reader.members member inside.length true s) inside t (125 :: after) := by
  cases all with
  | nil => exact ⟨125 :: after, rfl, (Reads.noMember true .nil).bind Reads.pure⟩
  | @cons m ms _ _ _ one rest =>
    have blank := layout.blankGap level
    have ends : Ends (Utf8.encode (layout.members (level + 1) ms) ++
        (Utf8.encode (layout.gap level) ++ 125 :: after)) := ends_members (blank.ends .brace)
    refine ⟨Utf8.encode (layout.gap (level + 1)) ++ 34 :: (Utf8.encode (m.1.toList.flatMap charText) ++ 34 :: 58 ::
      (Utf8.encode layout.space ++ (Utf8.encode (layout.chars (level + 1) m.2) ++
        (Utf8.encode (layout.members (level + 1) ms) ++ (Utf8.encode (layout.gap level) ++ 125 :: after))))), ?_, ?_⟩
    · rw [Layout.chars, ← encode_stringText]
      simp only [Utf8.encode_append, List.append_assoc]
      rfl
    · generalize bound : List.length _ = n
      have enough : ms.length < n - 1 := by
        have short := length_le_encode_members layout (level + 1) ms
        rw [← bound]
        simp only [List.length_append, List.length_cons]
        omega
      cases n with
      | zero => cases enough
      | succ n =>
        refine (Reads.memberAhead (layout.blankGap (level + 1))).bind ((Reads.key _).bind ?_)
        exact (one (level + 1) _ ends).bind (Reads.moreMembers rest blank enough)

theorem MemberRereads.of_value {reader : Reader α} (put : α → σ) (value : Rereads layout reader m.2 x)
    (step : member m.1 s = do colon; return put (← reader)) : MemberRereads layout member m s (put x) := by
  intro level after ends
  rw [step]
  exact (Reads.colon .nil).bind ((value level _ after layout.blankSpace ends).bind Reads.pure)

variable {inner : Option (Reader Json)} {each : Reader Json}

theorem Rereads.null : Rereads layout (valueWith inner) .null .null :=
  .of_token fun _ _ _ => (Reads.token .nil rfl (show _ = 'n' by decide)).bind (Reads.advance.bind
    ((Reads.word ['u', 'l', 'l'] rfl).bind Reads.pure))

theorem Rereads.bool (b : Bool) : Rereads layout (valueWith inner) (.bool b) (.bool b) := by
  cases b with
  | true =>
    exact .of_token fun _ _ _ => (Reads.token .nil rfl (show _ = 't' by decide)).bind (Reads.advance.bind
      ((Reads.word ['r', 'u', 'e'] rfl).bind Reads.pure))
  | false =>
    exact .of_token fun _ _ _ => (Reads.token .nil rfl (show _ = 'f' by decide)).bind (Reads.advance.bind
      ((Reads.word ['a', 'l', 's', 'e'] rfl).bind Reads.pure))

theorem Rereads.string (s : String) : Rereads layout (valueWith inner) (.string s) (.string s) := by
  refine .of_token fun level after _ => ?_
  rw [Layout.chars, encode_stringText]
  exact (Reads.token .nil rfl (show _ = '"' by decide)).bind
    (Reads.advance.bind ((Reads.stringBody s).bind Reads.pure))

theorem Rereads.integer (n : JsonInt) : Rereads layout (valueWith inner) (.integer n) (.integer n) := by
  refine .of_token fun level after ends => ?_
  rw [Layout.chars]
  exact Reads.integer n ends

theorem Rereads.double {x : Binary64} (readable : x.Readable) :
    Rereads layout (valueWith inner) (.double x) (.double x) := by
  refine .of_token fun level after ends => ?_
  rw [Layout.chars]
  exact Reads.double readable ends

theorem Rereads.array {made : β → Json} (all : ∀ y ∈ ys, Rereads layout each (written y) (made y)) :
    Rereads layout (valueWith (some each)) (.array (ys.map written)) (.array (ys.map made)) := by
  refine .of_token fun level after _ => ?_
  obtain ⟨inside, text, read⟩ := exists_items all level after
  rw [text]
  exact (Reads.token .nil rfl (show _ = '[' by decide)).bind (Reads.advance.bind
    (Reads.left.bind (read.bind ((Reads.endOfArray .nil).bind Reads.pure))))

/-- The step by which a member is put into an object. -/
def putMember (each : Reader Json) (k : String) (done : Members) : Reader Members := do
  colon
  return insert k (← each) done

theorem Rereads.object {done : Members} (all : MembersReread layout (putMember each) ms [] done) :
    Rereads layout (valueWith (some each)) (.object ms) (.object done) := by
  refine .of_token fun level after _ => ?_
  obtain ⟨inside, text, read⟩ := exists_members all level after
  rw [text]
  exact (Reads.token .nil rfl (show _ = '\x7b' by decide)).bind (Reads.advance.bind
    (Reads.left.bind (read.bind ((Reads.endOfObject .nil).bind Reads.pure))))

/-- Members that are all taken in the same way, each with its value. -/
theorem membersReread_foldl {put : σ → String × Json → σ} (all : ∀ m ∈ ms, Rereads layout each m.2 m.2)
    (step : ∀ m ∈ ms, ∀ s, member m.1 s = do colon; return put s (m.1, ← each)) (s : σ) :
    MembersReread layout member ms s (ms.foldl put s) := by
  induction ms generalizing s with
  | nil => exact .nil s
  | cons m ms ih =>
    obtain ⟨first, all⟩ := List.forall_mem_cons.mp all
    obtain ⟨stepFirst, step⟩ := List.forall_mem_cons.mp step
    exact .cons (.of_value (fun v => put s (m.1, v)) first (stepFirst s)) (ih all step _)

theorem Rereads.pairs (all : ∀ m ∈ ms, Rereads layout each m.2 m.2) :
    Rereads layout (valueWith (some each)) (.object ms) (.object (ofPairs ms)) :=
  .object (membersReread_foldl all (fun _ _ _ => rfl) [])

theorem Rereads.anywhere {w : Json} (rereads : ∀ inner, Rereads layout (valueWith inner) v w) (room : Nat) :
    Rereads layout (value room) v w := by
  cases room with
  | zero => exact rereads none
  | succ room => exact rereads (some (value room))

theorem value_rereads {room : Nat} (fits : v.Fits room) (readable : ∀ x, HasDouble x v → x.Readable) :
    Rereads layout (value room) v v := by
  induction fits with
  | null => exact .anywhere (fun _ => .null) _
  | bool b => exact .anywhere (fun _ => .bool b) _
  | integer n => exact .anywhere (fun _ => .integer n) _
  | double x => exact .anywhere (fun _ => .double (readable x .double)) _
  | string s => exact .anywhere (fun _ => .string s) _
  | @array room items _ ih =>
    have all : ∀ v ∈ items, Rereads layout (value room) (id v) (id v) :=
      fun v there => ih v there fun x has => readable x (.item there has)
    have whole : Rereads layout (value (room + 1)) _ _ := .array all
    rwa [List.map_id] at whole
  | @object room members sorted _ ih =>
    -- The members are put in one by one; as they stand in order already, none of them moves.
    have whole : Rereads layout (value (room + 1)) _ _ :=
      .pairs fun m there => ih m there fun x has => readable x (.member there has)
    rwa [sorted.ofPairs_eq sorted.distinctKeys fun _ => Iff.rfl] at whole

theorem Rereads.text (s : String) : Rereads layout Reader.string (.string s) s := by
  refine .of_token fun level after _ => ?_
  rw [Layout.chars, encode_stringText]
  exact (Reads.token .nil rfl (show _ = '"' by decide)).bind (Reads.advance.bind (Reads.stringBody s))

theorem Rereads.truth (b : Bool) : Rereads layout Reader.bool (.bool b) b := by
  cases b with
  | true =>
    exact .of_token fun _ _ _ => (Reads.token .nil rfl (show _ = 't' by decide)).bind (Reads.advance.bind
      ((Reads.word ['r', 'u', 'e'] rfl).bind Reads.pure))
  | false =>
    exact .of_token fun _ _ _ => (Reads.token .nil rfl (show _ = 'f' by decide)).bind (Reads.advance.bind
      ((Reads.word ['a', 'l', 's', 'e'] rfl).bind Reads.pure))

theorem chars_natural (n : Fin UInt64.size) :
    layout.chars level (Json.natural n.val n.isLt) = Nat.toDigits 10 n.val := by
  rw [Json.natural, Layout.chars]
  exact if_neg (Int.not_lt.mpr (Int.natCast_nonneg n.val))

theorem exists_digit_natural (n : Fin UInt64.size) :
    ∃ c cs, Nat.toDigits 10 n.val = c :: cs ∧ c.isDigit = true := by
  cases written : Nat.toDigits 10 n.val with
  | nil => exact absurd written Nat.toDigits_ne_nil
  | cons c cs =>
    exact ⟨c, cs, rfl, Nat.isDigit_of_mem_toDigits (by decide) (by decide) (written ▸ List.mem_cons_self)⟩

theorem Rereads.natural (n : Fin UInt64.size) : Rereads layout Reader.natural (Json.natural n.val n.isLt) n := by
  refine .of_token fun level after ends => ?_
  have kind : Reads (Reader.whole false n.val) after (.natural n.val n.isLt) after := by
    rw [Reader.whole, if_neg Bool.false_ne_true, dif_pos n.isLt]
    exact Reads.pure
  have read := Reads.numeral (Nat.le_sub_one_of_lt n.isLt) kind ends
  obtain ⟨c, cs, written, digit⟩ := exists_digit_natural n
  obtain ⟨-, small⟩ := digit?_of_isDigit digit
  have range : '0' ≤ c ∧ c ≤ '9' := by
    simpa [Char.isDigit, Char.le_def] using digit
  rw [written, Utf8.encode_ascii small, List.cons_append] at read
  rw [chars_natural, written, Utf8.encode_ascii small, List.cons_append]
  refine (Reads.token .nil (visible_of_isDigit digit) (Utf8.ofUInt8_ofNat small)).bind ?_
  split
  · contradiction
  · next is =>
    rw [Option.some.inj is] at digit
    exact absurd digit (by decide)
  · next is =>
    obtain rfl := Option.some.inj is
    rw [if_pos range]
    exact read.bind Reads.pure

theorem Rereads.absent {reader : Reader α} : Rereads layout (optional reader) .null none :=
  .of_token fun _ _ _ => (Reads.token .nil rfl (show _ = 'n' by decide)).bind (Reads.advance.bind
    ((Reads.word ['u', 'l', 'l'] rfl).bind Reads.pure))

theorem Rereads.present {reader : Reader α} (rereads : Rereads layout reader v x)
    (other : ∀ level, (Utf8.encode (layout.chars level v)).head?.map Char.ofUInt8 ≠ some 'n') :
    Rereads layout (optional reader) v (some x) := by
  refine .of_token fun level after ends => ?_
  have read := rereads.now level ends
  have other := other level
  obtain ⟨b, text, is, visible, -⟩ := layout.begins_chars level v
  rw [is] at read other ⊢
  refine (Reads.token .nil visible rfl).bind ?_
  split
  · next null => exact absurd null other
  · exact read.bind Reads.pure

theorem Rereads.list {room : Nat} {item : Nat → Reader α}
    (all : ∀ y ∈ ys, Rereads layout (item room) (written y) (made y)) :
    Rereads layout (Reader.list (room + 1) item) (.array (ys.map written)) (ys.map made) := by
  refine .of_token fun level after _ => ?_
  obtain ⟨inside, text, read⟩ := exists_items all level after
  rw [text]
  exact (Reads.token .nil rfl (show _ = '[' by decide)).bind (Reads.advance.bind
    (Reads.left.bind (read.bind ((Reads.endOfArray .nil).bind Reads.pure))))

theorem Reads.field {name : String} {reader : Reader α} (rereads : Rereads layout reader v x) (ends : Ends after) :
    Reads (field name none reader)
      (58 :: (Utf8.encode layout.space ++ (Utf8.encode (layout.chars level v) ++ after))) (some x) after :=
  (Reads.colon .nil).bind ((rereads level _ after layout.blankSpace ends).bind Reads.pure)

theorem Rereads.record {kind : Record σ α} {room : Nat} (all : MembersReread layout (kind.member room) ms kind.start s)
    (finished : kind.finish s = .ok x) : Rereads layout (Reader.record kind (room + 1)) (.object ms) x := by
  refine .of_token fun level after _ => ?_
  obtain ⟨inside, text, read⟩ := exists_members all level after
  rw [text]
  refine (Reads.token .nil rfl (show _ = '\x7b' by decide)).bind (Reads.advance.bind (Reads.left.bind (read.bind ?_)))
  rw [finished]
  exact (Reads.endOfObject .nil).bind Reads.pure

theorem Rereads.whole {reader : Reader α} (rereads : Rereads layout reader v x) (level : Nat) (blank : Blank gap) :
    whole? reader (Utf8.encode (layout.chars level v) ++ gap) = .ok x := by
  have ends : Ends (gap ++ []) := blank.ends .nil
  rw [List.append_nil] at ends
  exact (rereads.now level ends).whole blank

end Reader

end Json

end ChannelFeed
