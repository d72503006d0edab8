import ChannelFeed.CommandLine.Listing

/-!
# Configuration

Which settings and which base URL the program uses, and everything that can be wrong with them. Settings are read
before the base URL is looked at, so that a broken file cannot be made up for by an address on the command line. The
limit of the client is always that of the settings.
-/

namespace ChannelFeed.CommandLine

open Files Http

/-- The settings file in use: the one that is named, or else that of the user. -/
def settingsFile (home : String) (a : Arguments) : String := a.config.getD (Settings.userFile home)

section
variable (s : Surroundings) (home : String) (a : Arguments)

/-- What is wrong with the settings file. Only that of the user may be missing. -/
inductive Broken : Prop
  | missing {path : String} (named : a.config = some path) (absent : s.file path = .error .notFound)
  | unreadable {fault : Fault} (refused : s.file (settingsFile home a) = .error fault) (other : fault ≠ .notFound)
  | noText {bytes : List UInt8} {fault : Fault} (content : s.file (settingsFile home a) = .ok bytes)
    (undecodable : textOf bytes = .error fault)
  | invalid {bytes : List UInt8} {fault : Json.Fault} (content : s.file (settingsFile home a) = .ok bytes)
    (refused : Settings.read bytes = .error fault)

/-- The settings in the file in use. Without a file of the user nothing is configured. -/
inductive Configured : Settings → Prop
  | written {bytes : List UInt8} {text : String} {settings : Settings}
    (content : s.file (settingsFile home a) = .ok bytes) (decoded : textOf bytes = .ok text)
    (valid : Settings.read bytes = .ok settings) : Configured settings
  | absent (unnamed : a.config = none) (missing : s.file (Settings.userFile home) = .error .notFound) :
    Configured .default

/-- The base URL in use: the one on the command line, even if it is empty, else the one in the environment if it is a
text and not empty, else the one in the settings. -/
inductive Chosen (settings : Settings) : Option String → Prop
  | argument {url : String} (given : a.apiUrl = some url) : Chosen settings (some url)
  | environment {bytes : List UInt8} {url : String} (silent : a.apiUrl = none) (set : s.address = some bytes)
    (decoded : textOf bytes = .ok url) (filled : url ≠ "") : Chosen settings (some url)
  | file (silent : a.apiUrl = none)
    (unset : ∀ bytes url, s.address = some bytes → textOf bytes = .ok url → url = "") :
    Chosen settings settings.apiBaseUrl

/-- What is wrong before any request is made. -/
inductive Misconfigured (library : Library) : Prop
  | broken (broken : Broken s home a)
  | unaddressed {settings : Settings} (configured : Configured s home a settings) (chosen : Chosen s a settings none)
  | empty {settings : Settings} (configured : Configured s home a settings) (chosen : Chosen s a settings (some ""))
  | rejected {settings : Settings} {url : String} {failure : Failure} (configured : Configured s home a settings)
    (chosen : Chosen s a settings (some url)) (refused : Client.make library url settings.limit = .error failure)

/-- Settings and a client made with their limit of a base URL that can be used. -/
inductive Ready (library : Library) (settings : Settings) (client : Client) : Prop
  | ready {url : String} (configured : Configured s home a settings) (chosen : Chosen s a settings (some url))
    (filled : url ≠ "") (accepted : Client.make library url settings.limit = .ok client)

end

section
variable {s : Surroundings} {home : String} {a : Arguments} {library : Library} {settings : Settings}

theorem settingsFile_eq {path : String} (named : a.config = some path) : settingsFile home a = path := by
  rw [settingsFile, named, Option.getD_some]

theorem settingsFile_unnamed (unnamed : a.config = none) : settingsFile home a = Settings.userFile home := by
  rw [settingsFile, unnamed, Option.getD_none]

theorem Configured.not_broken (configured : Configured s home a settings) : ¬ Broken s home a := by
  intro broken
  cases configured with
  | written content decoded valid =>
    cases broken with
    | missing named absent =>
      rw [settingsFile_eq named, absent] at content
      cases content
    | unreadable refused other =>
      rw [refused] at content
      cases content
    | noText read undecodable =>
      cases read.symm.trans content
      cases undecodable.symm.trans decoded
    | invalid read refused =>
      cases read.symm.trans content
      cases refused.symm.trans valid
  | absent unnamed missing =>
    rw [← settingsFile_unnamed unnamed] at missing
    cases broken with
    | missing named absent => cases unnamed.symm.trans named
    | unreadable refused other =>
      cases refused.symm.trans missing
      exact other rfl
    | noText read undecodable => cases read.symm.trans missing
    | invalid read refused => cases read.symm.trans missing

/-- What comes of reading a settings file. -/
inductive Content (s : Surroundings) (path : String) : Except Failure (Option Settings) → Prop
  | none (missing : s.file path = .error .notFound) : Content s path (.ok none)
  | unreadable {fault : Fault} {failure : Failure} (refused : s.file path = .error fault) (other : fault ≠ .notFound) :
    Content s path (.error failure)
  | noText {bytes : List UInt8} {fault : Fault} {failure : Failure} (content : s.file path = .ok bytes)
    (undecodable : textOf bytes = .error fault) : Content s path (.error failure)
  | invalid {bytes : List UInt8} {fault : Json.Fault} {failure : Failure} (content : s.file path = .ok bytes)
    (refused : Settings.read bytes = .error fault) : Content s path (.error failure)
  | written {bytes : List UInt8} {text : String} {settings : Settings} (content : s.file path = .ok bytes)
    (decoded : textOf bytes = .ok text) (valid : Settings.read bytes = .ok settings) :
    Content s path (.ok (some settings))

theorem content_inFile? (s : Surroundings) (path : String) : Content s path (Settings.inFile? s path) := by
  unfold Settings.inFile?
  split
  next missing => exact .none missing
  next fault other refused => exact .unreadable refused fun missing => other missing
  next bytes content =>
    unfold Settings.ofBytes
    split
    next fault undecodable => exact .noText content undecodable
    next text decoded =>
      split
      next fault refused => exact .invalid content refused
      next settings valid => exact .written content decoded valid

/-- The file in use is read in any case. That it is missing matters if it was named. -/
theorem load_eq (hasHome : s.home = some home) :
    Settings.load s a.config =
      (Settings.inFile? s (settingsFile home a)).bind fun found =>
        match found, a.config with
        | some settings, _ => .ok (settings.withAddress s.address)
        | none, some path => .error (.settingsNotFound path)
        | none, none => .ok (Settings.default.withAddress s.address) := by
  unfold Settings.load
  cases named : a.config with
  | none =>
    rw [settingsFile_unnamed named, hasHome]
    change (Settings.inFile? s (Settings.userFile home)).bind _ = _
    cases Settings.inFile? s (Settings.userFile home) with
    | error failure => rfl
    | ok found => cases found <;> rfl
  | some path =>
    rw [settingsFile_eq named]
    change (Settings.inFile? s path).bind _ = _
    cases Settings.inFile? s path with
    | error failure => rfl
    | ok found => cases found <;> rfl

/-- Settings are loaded unless something is wrong with their file. -/
theorem load_cases (hasHome : s.home = some home) :
    (∃ settings, Configured s home a settings ∧ Settings.load s a.config = .ok (settings.withAddress s.address)) ∨
      (Broken s home a ∧ ∃ failure, Settings.load s a.config = .error failure) := by
  rw [load_eq hasHome]
  have content := content_inFile? s (settingsFile home a)
  generalize Settings.inFile? s (settingsFile home a) = given at content ⊢
  cases content with
  | none missing =>
    cases named : a.config with
    | none => exact .inl ⟨_, .absent named (settingsFile_unnamed named ▸ missing), rfl⟩
    | some path => exact .inr ⟨.missing named (settingsFile_eq named ▸ missing), _, rfl⟩
  | unreadable refused other => exact .inr ⟨.unreadable refused other, _, rfl⟩
  | noText content undecodable => exact .inr ⟨.noText content undecodable, _, rfl⟩
  | invalid content refused => exact .inr ⟨.invalid content refused, _, rfl⟩
  | written content decoded valid => exact .inl ⟨_, .written content decoded valid, rfl⟩

theorem Configured.unique {others : Settings} (configured : Configured s home a settings)
    (again : Configured s home a others) : settings = others := by
  cases configured with
  | written content decoded valid =>
    cases again with
    | written content' decoded' valid' =>
      cases content.symm.trans content'
      exact Except.ok.inj (valid.symm.trans valid')
    | absent unnamed missing =>
      rw [settingsFile_unnamed unnamed, missing] at content
      cases content
  | absent unnamed missing =>
    cases again with
    | written content decoded valid =>
      rw [settingsFile_unnamed unnamed, missing] at content
      cases content
    | absent unnamed missing => rfl

theorem addressText?_eq_some {address : Option (List UInt8)} {url : String} :
    Settings.addressText? address = some url ↔ ∃ bytes, address = some bytes ∧ textOf bytes = .ok url ∧ url ≠ "" := by
  unfold Settings.addressText?
  cases address with
  | none => simp
  | some bytes =>
    cases decoded : textOf bytes with
    | error fault => simp [decoded, Except.toOption]
    | ok text => simp [decoded, Except.toOption, Option.filter_eq_some_iff]

/-- The base URL in use is the one in the settings, once those of the environment and of the command line have been put
there. -/
theorem chosen_iff {chosen : Option String} :
    Chosen s a settings chosen ↔ (withAddress a (settings.withAddress s.address)).apiBaseUrl = chosen := by
  constructor
  · intro chosen
    cases chosen with
    | argument given => rw [withAddress, given]
    | environment silent set decoded filled =>
      rw [withAddress, silent, Settings.withAddress, addressText?_eq_some.mpr ⟨_, set, decoded, filled⟩]
    | file silent unset =>
      have none : Settings.addressText? s.address = none := by
        refine Option.eq_none_iff_forall_ne_some.mpr fun url given => ?_
        obtain ⟨bytes, set, decoded, filled⟩ := addressText?_eq_some.mp given
        exact filled (unset bytes url set decoded)
      rw [withAddress, silent, Settings.withAddress, none]
  · rintro rfl
    unfold withAddress
    cases given : a.apiUrl with
    | some url => exact .argument given
    | none =>
      unfold Settings.withAddress
      cases set : Settings.addressText? s.address with
      | some url =>
        obtain ⟨bytes, there, decoded, filled⟩ := addressText?_eq_some.mp set
        exact .environment given there decoded filled
      | none =>
        refine .file given fun bytes url there decoded => Decidable.byContradiction fun filled => ?_
        cases set.symm.trans (addressText?_eq_some.mpr ⟨bytes, there, decoded, filled⟩)

/-- Neither the environment nor the command line tells how failures are presented, or for how long to wait. -/
theorem kept_withAddress (s : Surroundings) (a : Arguments) (settings : Settings) :
    (withAddress a (settings.withAddress s.address)).options = settings.options ∧
      (withAddress a (settings.withAddress s.address)).limit = settings.limit := by
  unfold withAddress Settings.withAddress
  split <;> split <;> exact ⟨rfl, rfl⟩

/-- The client is made of the address in the settings, if that is not empty. -/
theorem feed_eq (loaded : Settings.load s a.config = .ok (settings.withAddress s.address)) :
    feed s library a = (withAddress a (settings.withAddress s.address)).baseUrl.bind fun url =>
      (Client.make library url settings.limit).bind fun client => .ok ⟨client, settings.options, 0⟩ := by
  obtain ⟨options, limit⟩ := kept_withAddress s a settings
  rw [← options, ← limit]
  simp only [feed, loaded]
  rfl

/-- Either something is wrong with what is configured, or the program goes on with a client. -/
theorem feed_cases (library : Library) (hasHome : s.home = some home) :
    (∃ settings client, Ready s home a library settings client ∧
        feed s library a = .ok ⟨client, settings.options, 0⟩) ∨
      (Misconfigured s home a library ∧ ∃ failure, feed s library a = .error failure) := by
  rcases load_cases (a := a) hasHome with ⟨settings, configured, loaded⟩ | ⟨broken, failure, failed⟩
  · rw [feed_eq loaded, Settings.baseUrl]
    generalize inUse : (withAddress a (settings.withAddress s.address)).apiBaseUrl = address
    have chosen := chosen_iff.mpr inUse
    cases address with
    | none => exact .inr ⟨.unaddressed configured chosen, _, rfl⟩
    | some url =>
      by_cases empty : url = ""
      · subst empty
        exact .inr ⟨.empty configured chosen, _, rfl⟩
      · simp only [if_neg empty, Except.bind]
        cases made : Client.make library url settings.limit with
        | error failure => exact .inr ⟨.rejected configured chosen made, failure, rfl⟩
        | ok client => exact .inl ⟨settings, client, .ready configured chosen empty made, rfl⟩
  · refine .inr ⟨.broken broken, failure, ?_⟩
    simp only [feed, failed]
    rfl

theorem Chosen.unique {one other : Option String} (chosen : Chosen s a settings one)
    (again : Chosen s a settings other) : one = other :=
  (chosen_iff.mp chosen).symm.trans (chosen_iff.mp again)

theorem Ready.unique {client other : Client} {others : Settings} (ready : Ready s home a library settings client)
    (again : Ready s home a library others other) : settings = others ∧ client = other := by
  obtain ⟨configured, chosen, -, accepted⟩ := ready
  obtain ⟨configured', chosen', -, accepted'⟩ := again
  obtain rfl := configured.unique configured'
  obtain rfl := Option.some.inj (chosen.unique chosen')
  exact ⟨rfl, Except.ok.inj (accepted.symm.trans accepted')⟩

theorem Ready.not_misconfigured {client : Client} (ready : Ready s home a library settings client) :
    ¬ Misconfigured s home a library := by
  obtain ⟨configured, chosen, filled, accepted⟩ := ready
  intro wrong
  cases wrong with
  | broken broken => exact configured.not_broken broken
  | unaddressed again chosen' =>
    obtain rfl := configured.unique again
    cases chosen.unique chosen'
  | empty again chosen' =>
    obtain rfl := configured.unique again
    exact filled (Option.some.inj (chosen.unique chosen'))
  | rejected again chosen' refused =>
    obtain rfl := configured.unique again
    obtain rfl := Option.some.inj (chosen.unique chosen')
    cases accepted.symm.trans refused

end

end ChannelFeed.CommandLine
