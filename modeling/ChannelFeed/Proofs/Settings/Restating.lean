import ChannelFeed.Proofs.CommandLine.Configuration
import ChannelFeed.Proofs.Files.Written
import ChannelFeed.Proofs.Json.ObjectTexts

/-!
# Settings are loaded as they were saved

Settings are read from the text in which they are written, and from every text that says the same: its members may be in
another order, those that hold their default may be missing and others may have been added. What is known after some of
the members is determined by their names. Main statement: `saved_settings_are_loaded`.
-/

namespace ChannelFeed.Settings

open Files Json Json.Grammar Json.Reader

variable {s settings loaded : Settings} {room : Nat} {read : List String} {ms : List (String × List Char)}
  {text : List Char}

/-- The members in which settings are written. -/
def fields (s : Settings) : Members :=
  match s.document with
  | .object members => members
  | _ => []

def names : List String := default.fields.map (·.1)

/-- A member as it stands in a settings file. -/
def writtenField (m : String × Json) : String × List Char := (m.1, m.2.prettyChars 1)

/-- A text that says the same as the one in which settings are written. Of their members it holds all that differ from
their default, each as it was written, in any order and among members of any other names. -/
inductive Restates (s : Settings) (text : List Char) : Prop
  | restated {kept : Members} {added members : List (String × List Char)} (sub : kept.Sublist s.fields)
    (missing : ∀ m ∈ s.fields, m ∉ kept → m ∈ default.fields)
    (unknown : ∀ m ∈ added, m.1 ∉ names ∧ ValueText m.2)
    (order : (kept.map writtenField ++ added).Perm members) (isText : ObjectText members text)

/-- Whatever the order of the members, whichever are missing and whatever has been added. -/
theorem restates_pretty {kept added members : Members} (sub : kept.Sublist s.fields)
    (missing : ∀ m ∈ s.fields, m ∉ kept → m ∈ default.fields)
    (unknown : ∀ m ∈ added, m.1 ∉ names ∧ ValueText (m.2.prettyChars 1)) (order : (kept ++ added).Perm members) :
    Restates s (Json.object members).pretty.toList := by
  have unknown' : ∀ m ∈ added.map writtenField, m.1 ∉ names ∧ ValueText m.2 := List.forall_mem_map.mpr unknown
  have order' : (kept.map writtenField ++ added.map writtenField).Perm (members.map writtenField) := by
    rw [← List.map_append]
    exact order.map writtenField
  refine .restated sub missing unknown' order' ?_
  have same : (Json.object members).pretty.toList = Layout.lines.chars 0 (.object members) := by
    rw [Layout.chars_lines, Json.pretty, String.toList_ofList]
  have written : members.map writtenField = members.map fun m => (m.1, Layout.lines.chars 1 m.2) :=
    List.map_congr_left fun m _ => by rw [writtenField, Layout.chars_lines]
  rw [same, written]
  exact objectText_lines members

theorem restates_text (s : Settings) : Restates s s.text.toList :=
  restates_pretty (List.Sublist.refl s.fields) (fun _ there gone => absurd there gone)
    (fun _ none => absurd none List.not_mem_nil) (List.Perm.of_eq (List.append_nil s.fields))

/-- What is known of settings when the members of these names have been read. -/
def givenBy (s : Settings) (read : List String) : Given where
  apiBaseUrl := if "api_base_url" ∈ read then some s.apiBaseUrl else none
  refetchOnWindowFocus := if "refetch_on_window_focus" ∈ read then some s.refetchOnWindowFocus else none
  refetchOnReconnect := if "refetch_on_reconnect" ∈ read then some s.refetchOnReconnect else none
  surfaceErrors := if "surface_errors" ∈ read then some s.surfaceErrors else none
  requestTimeoutSecs := if "request_timeout_secs" ∈ read then some s.requestTimeoutSecs else none

theorem optionalString_rereads (url : Option String) :
    Rereads Layout.lines (optional string) (url.elim .null .string) url := by
  cases url with
  | none => exact .absent
  | some url => exact .present (.text url) fun level is => absurd (show '"' = 'n' from Option.some.inj is) (by decide)

theorem seconds_rereads (seconds : Option (Fin UInt64.size)) :
    Rereads Layout.lines secondsReader (seconds.elim .null fun n => Json.natural n.val n.isLt) seconds := by
  cases seconds with
  | none => exact .absent
  | some n =>
    refine .present (.natural n) fun level is => ?_
    obtain ⟨c, cs, written, digit⟩ := exists_digit_natural n
    obtain ⟨-, small⟩ := digit?_of_isDigit digit
    rw [Option.elim, chars_natural, written, Utf8.encode_ascii small, List.head?_cons, Option.map_some,
      Utf8.ofUInt8_ofNat small] at is
    rw [Option.some.inj is] at digit
    exact absurd digit (by decide)

theorem memberReads_of_field {α : Type} {name : String} {v : Json} {reader : Reader α} {x : α} {g g' : Given}
    (get : Given → Option α) (put : Given → Option α → Given) (rereads : Rereads Layout.lines reader v x)
    (step : ∀ g, member room name g = do return put g (← field name (get g) reader)) (unread : get g = none)
    (state : g' = put g (some x)) : MemberReads (member room) (writtenField (name, v)) g g' := by
  intro gap behind after blank also ends
  have value := rereads 1 (Utf8.encode behind) after (blank_encode also) ends
  rw [Layout.chars_lines] at value
  have setting : Reads (field name none reader)
      (Utf8.encode gap ++ 58 :: (Utf8.encode behind ++ (Utf8.encode (v.prettyChars 1) ++ after))) (some x) after :=
    (Reads.colon (blank_encode blank)).bind (value.bind Reads.pure)
  rw [writtenField, step, state, unread]
  exact setting.bind Reads.pure

theorem memberReads_field {m : String × Json} (there : m ∈ s.fields) (unread : m.1 ∉ read) :
    MemberReads (member room) (writtenField m) (s.givenBy read) (s.givenBy (m.1 :: read)) := by
  simp only [fields, document, List.mem_cons, List.not_mem_nil, or_false] at there
  rcases there with rfl | rfl | rfl | rfl | rfl
  · exact memberReads_of_field Given.apiBaseUrl (fun g x => { g with apiBaseUrl := x }) (optionalString_rereads _)
      (fun _ => rfl) (if_neg unread) (by simp [givenBy])
  · exact memberReads_of_field Given.refetchOnWindowFocus (fun g x => { g with refetchOnWindowFocus := x }) (.truth _)
      (fun _ => rfl) (if_neg unread) (by simp [givenBy])
  · exact memberReads_of_field Given.refetchOnReconnect (fun g x => { g with refetchOnReconnect := x }) (.truth _)
      (fun _ => rfl) (if_neg unread) (by simp [givenBy])
  · exact memberReads_of_field Given.surfaceErrors (fun g x => { g with surfaceErrors := x }) (.truth _)
      (fun _ => rfl) (if_neg unread) (by simp [givenBy])
  · exact memberReads_of_field Given.requestTimeoutSecs (fun g x => { g with requestTimeoutSecs := x })
      (seconds_rereads _) (fun _ => rfl) (if_neg unread) (by simp [givenBy])

theorem memberReads_unknown {m : String × List Char} (unknown : m.1 ∉ names) (value : ValueText m.2) :
    MemberReads (member room) m (s.givenBy read) (s.givenBy (m.1 :: read)) := by
  intro gap behind after blank also ends
  simp only [names, fields, document, List.map_cons, List.map_nil, List.mem_cons, List.not_mem_nil, or_false,
    not_or] at unknown
  obtain ⟨noUrl, noFocus, noReconnect, noErrors, noTimeout⟩ := unknown
  have state : s.givenBy (m.1 :: read) = s.givenBy read := by
    simp [givenBy, Ne.symm noUrl, Ne.symm noFocus, Ne.symm noReconnect, Ne.symm noErrors, Ne.symm noTimeout]
  rw [state, member, if_neg noUrl, if_neg noFocus, if_neg noReconnect, if_neg noErrors, if_neg noTimeout]
  exact (Reads.passMember value blank also ends).bind Reads.pure

theorem name_of_field {m : String × Json} (there : m ∈ s.fields) : m.1 ∈ names := List.mem_map_of_mem (f := (·.1)) there

/-- The members of a text come to be known in any order, each name of a setting once. -/
theorem membersRead (each : ∀ m ∈ ms, (∃ f ∈ s.fields, m = writtenField f) ∨ (m.1 ∉ names ∧ ValueText m.2))
    (once : ms.Pairwise fun m n => m.1 = n.1 → m.1 ∉ names) (fresh : ∀ m ∈ ms, m.1 ∈ read → m.1 ∉ names) :
    MembersRead (member room) ms (s.givenBy read) (s.givenBy ((ms.map (·.1)).reverse ++ read)) := by
  induction ms generalizing read with
  | nil => exact .nil _
  | cons m ms ih =>
    obtain ⟨first, each⟩ := List.forall_mem_cons.mp each
    obtain ⟨freshFirst, fresh⟩ := List.forall_mem_cons.mp fresh
    obtain ⟨onceFirst, once⟩ := List.pairwise_cons.mp once
    have one : MemberReads (member room) m (s.givenBy read) (s.givenBy (m.1 :: read)) := by
      rcases first with ⟨f, there, rfl⟩ | ⟨unknown, value⟩
      · exact memberReads_field there fun known => freshFirst known (name_of_field there)
      · exact memberReads_unknown unknown value
    have stillFresh : ∀ n ∈ ms, n.1 ∈ m.1 :: read → n.1 ∉ names := by
      intro n there known
      rcases List.mem_cons.mp known with same | known
      · rw [same]
        exact onceFirst n there same.symm
      · exact fresh n there known
    rw [List.map_cons, List.reverse_cons, List.append_assoc]
    exact .cons one (ih each once stillFresh)

theorem getD_ite {α : Type} {p : Prop} [Decidable p] {x absent : α} (missing : ¬ p → x = absent) :
    (if p then some x else none).getD absent = x := by
  split
  · rfl
  · next unread => exact (missing unread).symm

theorem settings_givenBy (missing : ∀ m ∈ s.fields, m.1 ∉ read → m ∈ default.fields) :
    (s.givenBy read).settings = s := by
  obtain ⟨url, focus, reconnect, errors, seconds⟩ := s
  simp only [fields, document, default, List.forall_mem_cons] at missing
  obtain ⟨noUrl, noFocus, noReconnect, noErrors, noSeconds, -⟩ := missing
  rw [Given.settings, givenBy, Settings.mk.injEq]
  refine ⟨getD_ite fun unread => ?_, getD_ite fun unread => ?_, getD_ite fun unread => ?_, getD_ite fun unread => ?_,
    getD_ite fun unread => ?_⟩
  · have absent := noUrl unread
    cases url with
    | none => rfl
    | some url => simp at absent
  · simpa using noFocus unread
  · simpa using noReconnect unread
  · simpa using noErrors unread
  · have absent := noSeconds unread
    cases seconds with
    | none => rfl
    | some n => simp [Json.natural] at absent

theorem names_nodup : names.Nodup := by decide

theorem once_of_restated {kept : Members} {added members : List (String × List Char)} (sub : kept.Sublist s.fields)
    (unknown : ∀ m ∈ added, m.1 ∉ names ∧ ValueText m.2)
    (order : (kept.map writtenField ++ added).Perm members) :
    members.Pairwise fun m n => m.1 = n.1 → m.1 ∉ names := by
  refine (order.pairwise_iff fun {m n} once same => same ▸ once same.symm).mp (List.pairwise_append.mpr ⟨?_, ?_, ?_⟩)
  · have distinct : s.fields.Pairwise fun m n => m.1 ≠ n.1 := List.pairwise_map.mp (show names.Nodup from names_nodup)
    exact List.pairwise_map.mpr ((distinct.sublist sub).imp fun other same => absurd same other)
  · exact List.pairwise_of_forall_mem_list fun m there n _ _ => (unknown m there).1
  · intro m there n also same
    rw [same]
    exact (unknown n also).1

theorem read_of_restates (restates : Restates s text) : Settings.read (Utf8.encode text) = .ok s := by
  obtain @⟨kept, added, members, sub, missing, unknown, order, isText⟩ := restates
  have each : ∀ m ∈ members, (∃ f ∈ s.fields, m = writtenField f) ∨ (m.1 ∉ names ∧ ValueText m.2) := by
    intro m there
    rcases List.mem_append.mp (order.mem_iff.mpr there) with there | there
    · obtain ⟨f, isKept, rfl⟩ := List.mem_map.mp there
      exact .inl ⟨f, sub.subset isKept, rfl⟩
    · exact .inr (unknown m there)
  have absent : ∀ m ∈ s.fields, m.1 ∉ (members.map (·.1)).reverse ++ [] → m ∈ default.fields := by
    intro m there unread
    refine missing m there fun isKept => unread ?_
    rw [List.append_nil, List.mem_reverse]
    have inText := order.mem_iff.mp (List.mem_append_left added (List.mem_map_of_mem isKept))
    exact List.mem_map.mpr ⟨_, inText, rfl⟩
  have all : MembersRead (member 126) members (s.givenBy []) _ :=
    membersRead each (once_of_restated sub unknown order) fun m _ none => absurd none List.not_mem_nil
  exact whole?_objectText isText all (congrArg Except.ok (settings_givenBy absent))

/-- The file from which settings are loaded and to which they are saved. -/
inductive InUse (home : Option String) : Option String → String → Prop
  | named {path : String} : InUse home (some path) path
  | user {directory : String} (isHome : home = some directory) : InUse home none (userFile directory)

/-- What the environment makes of settings: a base URL goes before theirs, unless it is empty or no text. -/
inductive Overridden (settings : Settings) : Option (List UInt8) → Settings → Prop
  | unset : Overridden settings none settings
  | empty : Overridden settings (some []) settings
  | noText {bytes : List UInt8} {fault : Files.Fault} (undecodable : textOf bytes = .error fault) :
    Overridden settings (some bytes) settings
  | address {bytes : List UInt8} {url : String} (decoded : textOf bytes = .ok url) (filled : url ≠ "") :
    Overridden settings (some bytes) { settings with apiBaseUrl := some url }

theorem Overridden.withAddress_eq {address : Option (List UInt8)} (overridden : Overridden settings address loaded) :
    settings.withAddress address = loaded := by
  unfold withAddress
  cases overridden with
  | unset => rfl
  | empty => rfl
  | @noText bytes fault undecodable =>
    have noAddress : addressText? (some bytes) = none := by
      refine Option.eq_none_iff_forall_ne_some.mpr fun url given => ?_
      obtain ⟨_, same, decoded, -⟩ := CommandLine.addressText?_eq_some.mp given
      cases same
      cases undecodable.symm.trans decoded
    rw [noAddress]
  | address decoded filled => rw [CommandLine.addressText?_eq_some.mpr ⟨_, rfl, decoded, filled⟩]

theorem textOf_encode (cs : List Char) : textOf (Utf8.encode cs) = .ok (String.ofList cs) := by
  rw [textOf, Utf8.decode_encode]

theorem load_of_restates {s : Surroundings} {path : Option String} {file : String} (inUse : InUse s.home path file)
    (there : s.file file = .ok (Utf8.encode text)) (restates : Restates settings text) :
    load s path = .ok (settings.withAddress s.address) := by
  have found : inFile? s file = .ok (some settings) := by
    simp only [inFile?, there, ofBytes, textOf_encode, read_of_restates restates]
    rfl
  unfold load
  cases inUse with
  | named =>
    simp only [found]
    rfl
  | user isHome =>
    simp only [isHome, userFile?]
    change ((inFile? s _).bind fun found => _) = _
    rw [found]
    rfl

theorem eq_ok_of_mapError {ε ε' α : Type} {f : ε → ε'} {result : Except ε α} {x : α}
    (mapped : result.mapError f = .ok x) : result = .ok x := by
  cases result with
  | error fault => cases mapped
  | ok y =>
    cases mapped
    rfl

theorem save_eq_ok {tree after : Files.Tree} {home path : Option String}
    (saved : settings.save tree home path = .ok after) :
    ∃ file, InUse home path file ∧ tree.write file settings.text.toUTF8.toList = .ok after := by
  cases path with
  | some path => exact ⟨path, .named, eq_ok_of_mapError saved⟩
  | none =>
    obtain ⟨file, isFile, written⟩ := ChannelFeed.bind_eq_ok.mp saved
    cases home with
    | none => cases isFile
    | some directory =>
      cases isFile
      exact ⟨_, .user rfl, eq_ok_of_mapError written⟩

/-- Settings that were saved are loaded, whatever was in the file before, with the base URL of the environment if it has
one. So they are from any text that says the same. -/
theorem saved_settings_are_loaded {tree after : Files.Tree} {home path : Option String}
    (saved : settings.save tree home path = .ok after) {address : Option (List UInt8)}
    (overridden : Overridden settings address loaded) :
    load ⟨after.read, home, address⟩ path = .ok loaded ∧
      ∃ file, InUse home path file ∧ after.read file = .ok settings.text.toUTF8.toList ∧
        Restates settings settings.text.toList ∧
        ∀ text, Restates settings text → ∀ disk : String → Except Files.Fault (List UInt8),
          disk file = .ok (Utf8.encode text) → load ⟨disk, home, address⟩ path = .ok loaded := by
  obtain ⟨file, inUse, written⟩ := save_eq_ok saved
  have content : after.read file = .ok settings.text.toUTF8.toList := Tree.read_of_write written
  have again : ∀ text, Restates settings text → ∀ disk : String → Except Files.Fault (List UInt8),
      disk file = .ok (Utf8.encode text) → load ⟨disk, home, address⟩ path = .ok loaded := by
    intro text restates disk there
    rw [← overridden.withAddress_eq]
    exact load_of_restates inUse there restates
  refine ⟨again _ (restates_text settings) after.read ?_, file, inUse, content, restates_text settings, again⟩
  rw [content, Utf8.toUTF8_toList]

/-- The file is read again as it was saved, and as it stands after a user has turned it round, taken out what holds its
default and put in a member of another program. -/
theorem rearranged_settings_are_loaded :
    let settings : Settings := ⟨some "\"\n\x01é", true, false, false, some 18446744073709551615⟩
    let after : Files.Tree := ⟨[(["f"], .file settings.text.toUTF8.toList)]⟩
    let rearranged := Json.object [("request_timeout_secs", Json.natural 18446744073709551615 (by decide)),
      ("other", .array []), ("api_base_url", .string "\"\n\x01é"), ("refetch_on_window_focus", .bool true)]
    settings.save .empty none (some "/f") = .ok after ∧
      load ⟨after.read, none, some [255]⟩ (some "/f") = .ok settings ∧
      load ⟨fun _ => .ok (Utf8.encode rearranged.pretty.toList), none, some [255]⟩ (some "/f") = .ok settings := by
  intro settings after rearranged
  have saved : settings.save .empty none (some "/f") = .ok after := rfl
  have noText : textOf [255] = .error .notText := rfl
  have rearranges : Restates settings rearranged.pretty.toList := by
    refine restates_pretty (.cons_cons _ (.cons_cons _ (.cons _ (.cons _ (.cons_cons _ .slnil))))) ?_ ?_
      (show ([_, _] ++ [_, ("other", Json.array [])]).Perm _ from List.perm_append_comm)
    · simp [fields, document, settings, default]
    · refine List.forall_mem_singleton.mpr ⟨by decide, ?_⟩
      exact ValueText.array (.none .nil) fun _ none => absurd none List.not_mem_nil
  obtain ⟨again, file, inUse, -, -, others⟩ := saved_settings_are_loaded saved (.noText noText)
  exact ⟨saved, again, others _ rearranges _ rfl⟩

end ChannelFeed.Settings
