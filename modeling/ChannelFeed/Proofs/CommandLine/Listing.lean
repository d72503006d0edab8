import ChannelFeed.Proofs.Channel.Verbatim
import ChannelFeed.Proofs.CommandLine.Configuration
import ChannelFeed.Proofs.Feed.CachedLoading
import ChannelFeed.Proofs.Http.Outcomes

/-!
# Listing channels

The program succeeds or prints nothing. What can go wrong is told here by what the program is given: its settings, the
base URL in use, what comes of the fetch, and the channels it is to pick from. Only a fetch without a limit may let it
wait for ever. Main statement: `lists_or_prints_nothing`.
-/

namespace ChannelFeed.CommandLine

open Http

/-! ## Arguments -/

theorem Arguments.withSwitch_ne_list {a b : Arguments} {switch : Switch} : a.withSwitch switch ≠ .error (.list b) := by
  intro same
  cases switch with
  | help => cases same
  | json | debug =>
    simp only [withSwitch] at same
    split at same <;> cases same

theorem Arguments.withLetters_ne_list {letters : List Char} {a b : Arguments} :
    a.withLetters letters ≠ .error (.list b) := by
  induction letters generalizing a with
  | nil =>
    intro same
    cases same
  | cons c rest ih =>
    unfold withLetters
    split
    · intro same
      cases same
    · next switch _ =>
      cases given : a.withSwitch switch with
      | ok a => exact ih
      | error request =>
        intro same
        cases same
        exact withSwitch_ne_list given

theorem Arguments.picked_once {a b : Arguments} (asked : a.request = .list b) : b.name = .none ∨ b.userId = .none := by
  unfold request at asked
  split at asked
  · cases asked
  · next once =>
    cases asked
    cases name : a.name with
    | none => exact .inl rfl
    | some _ =>
      cases userId : a.userId with
      | none => exact .inr rfl
      | some _ => simp [name, userId] at once

theorem picked_once {arguments : List String} {a b : Arguments} (asked : readFrom a arguments = .list b) :
    b.name = none ∨ b.userId = none := by
  fun_induction readFrom a arguments with
  | case1 | case2 => exact Arguments.picked_once asked
  | case4 | case6 | case10 | case12 => rename_i ih; exact ih asked
  | case7 a _ _ _ _ _ _ _ _ _ request switched =>
    subst asked
    exact absurd switched Arguments.withSwitch_ne_list
  | case13 a _ _ _ _ _ _ _ request switched =>
    subst asked
    exact absurd switched Arguments.withLetters_ne_list
  | _ => cases asked

/-! ## Selection -/

/-- Whether a channel has the name or the user id that is asked for. -/
def Matches (a : Arguments) (c : Channel) : Prop := a.name = some c.name ∨ a.userId = some c.userId

instance (a : Arguments) (c : Channel) : Decidable (Matches a c) :=
  inferInstanceAs (Decidable (a.name = some c.name ∨ a.userId = some c.userId))

/-- Whether a single channel is asked for. -/
def Selective (a : Arguments) : Prop := a.name ≠ none ∨ a.userId ≠ none

/-- A list as it is narrowed: to the first channel that matches, if a single one is asked for. -/
inductive Narrowed (a : Arguments) (channels : List Channel) : List Channel → Prop
  | all (name : a.name = none) (userId : a.userId = none) : Narrowed a channels channels
  | first {before after : List Channel} {c : Channel} (parts : channels = before ++ c :: after)
    (others : ∀ d ∈ before, ¬ Matches a d) (hit : Matches a c) : Narrowed a channels [c]

section
variable {a : Arguments} (channels : List Channel)

/-- A search by what is asked for finds the first channel that matches, or there is none. -/
theorem find?_cases {p : Channel → Bool} (finds : ∀ c, p c = true ↔ Matches a c) :
    (∃ c, channels.find? p = some c ∧ Narrowed a channels [c]) ∨
      (channels.find? p = none ∧ ∀ c ∈ channels, ¬ Matches a c) := by
  cases found : channels.find? p with
  | some c =>
    obtain ⟨hit, before, after, parts, others⟩ := List.find?_eq_some_iff_append.mp found
    refine .inl ⟨c, rfl, .first parts (fun d there hit => ?_) ((finds c).mp hit)⟩
    simpa [(finds d).mpr hit] using others d there
  | none =>
    refine .inr ⟨rfl, fun c there hit => ?_⟩
    exact List.find?_eq_none.mp found c there ((finds c).mpr hit)

theorem select_cases (once : a.name = none ∨ a.userId = none) :
    (∃ picked, Narrowed a channels picked ∧ select channels a.name a.userId = .ok picked) ∨
      ((Selective a ∧ ∀ c ∈ channels, ¬ Matches a c) ∧
        ∃ failure, select channels a.name a.userId = .error failure) := by
  cases name : a.name with
  | some n =>
    have noUser : a.userId = none := once.resolve_left (by simp [name])
    have finds (c : Channel) : decide (c.name = n) = true ↔ Matches a c := by
      simp [Matches, name, noUser, eq_comm]
    rcases find?_cases channels finds with ⟨c, found, narrowed⟩ | ⟨found, nowhere⟩
    · refine .inl ⟨[c], narrowed, ?_⟩
      simp only [select, findByName, found]
    · refine .inr ⟨⟨.inl (by simp [name]), nowhere⟩, .channelNotFound ("named " ++ n), ?_⟩
      simp only [select, findByName, found]
  | none =>
    cases userId : a.userId with
    | some id =>
      have finds (c : Channel) : decide (c.userId = id) = true ↔ Matches a c := by
        simp [Matches, name, userId, eq_comm]
      rcases find?_cases channels finds with ⟨c, found, narrowed⟩ | ⟨found, nowhere⟩
      · refine .inl ⟨[c], narrowed, ?_⟩
        simp only [select, findByUserId, found]
      · refine .inr ⟨⟨.inr (by simp [userId]), nowhere⟩, .channelNotFound ("with user id " ++ id), ?_⟩
        simp only [select, findByUserId, found]
    | none => exact .inl ⟨channels, .all name userId, rfl⟩

end

/-! ## The list -/

/-- The list that a fetch leaves to pick from: the one that was fetched, or an empty one after a failure, unless failures
are surfaced. -/
inductive Loaded (settings : Settings) (fetched : Except RequestFailure (List Channel)) : List Channel → Prop
  | fetched {channels : List Channel} (succeeded : fetched = .ok channels) : Loaded settings fetched channels
  | concealed {failure : RequestFailure} (failed : fetched = .error failure) (silent : settings.surfaceErrors = false) :
    Loaded settings fetched []

section
variable (s : Surroundings) (home : String) (library : Library) (net : Network) (a : Arguments)

/-- Why the program fails. -/
inductive Fails : Prop
  | misconfigured (wrong : Misconfigured s home a library)
  | unfetched {settings : Settings} {client : Client} {failure : RequestFailure}
    (ready : Ready s home a library settings client) (surfaced : settings.surfaceErrors = true)
    (failed : (client.fetchChannels net).1 = some (.error failure))
  | unmatched {settings : Settings} {client : Client} {fetched : Except RequestFailure (List Channel)}
    {channels : List Channel} (ready : Ready s home a library settings client)
    (brought : (client.fetchChannels net).1 = some fetched) (loaded : Loaded settings fetched channels)
    (selective : Selective a) (nowhere : ∀ c ∈ channels, ¬ Matches a c)

/-- The channels that the program is to print. -/
inductive Prints : List Channel → Prop
  | prints {settings : Settings} {client : Client} {fetched : Except RequestFailure (List Channel)}
    {channels picked : List Channel} (ready : Ready s home a library settings client)
    (brought : (client.fetchChannels net).1 = some fetched) (loaded : Loaded settings fetched channels)
    (narrowed : Narrowed a channels picked) : Prints picked

/-- The program waits for the channels for ever. -/
inductive Waits : Prop
  | waits {settings : Settings} {client : Client} (ready : Ready s home a library settings client)
    (never : (client.fetchChannels net).1 = none) : Waits

end

section
variable {s : Surroundings} {home : String} {library : Library} {net : Network} {a : Arguments} {settings : Settings}

theorem present_cases (settings : Settings) (fetched : Except RequestFailure (List Channel)) :
    (∃ channels, Loaded settings fetched channels ∧ settings.options.policy.present fetched = .ok channels) ∨
    ((settings.surfaceErrors = true ∧ ∃ failure, fetched = .error failure) ∧
      ∃ failure, settings.options.policy.present fetched = .error failure) := by
  cases fetched with
  | ok channels => exact .inl ⟨channels, .fetched rfl, rfl⟩
  | error failure =>
    cases surfaced : settings.surfaceErrors with
    | false =>
      refine .inl ⟨[], .concealed rfl surfaced, ?_⟩
      simp only [Settings.options, surfaced]
      rfl
    | true =>
      refine .inr ⟨⟨rfl, failure, rfl⟩, .fetch failure.message, ?_⟩
      simp only [Settings.options, surfaced]
      rfl

theorem Loaded.unique {fetched : Except RequestFailure (List Channel)} {one other : List Channel}
    (loaded : Loaded settings fetched one) (again : Loaded settings fetched other) : one = other := by
  cases loaded with
  | fetched succeeded =>
    cases again with
    | fetched succeeded' => exact Except.ok.inj (succeeded.symm.trans succeeded')
    | concealed failed silent => cases succeeded.symm.trans failed
  | concealed failed silent =>
    cases again with
    | fetched succeeded => cases succeeded.symm.trans failed
    | concealed failed silent => rfl

/-- Where a single channel is asked for, what is left of a list matches. -/
theorem Narrowed.exists_matches {channels picked : List Channel} (narrowed : Narrowed a channels picked)
    (selective : Selective a) : ∃ c ∈ channels, Matches a c := by
  cases narrowed with
  | all name userId =>
    rcases selective with given | given
    · exact absurd name given
    · exact absurd userId given
  | @first before after c parts others hit =>
    exact ⟨c, parts ▸ List.mem_append_right before List.mem_cons_self, hit⟩

theorem Prints.not_fails {picked : List Channel} (prints : Prints s home library net a picked) :
    ¬ Fails s home library net a := by
  obtain ⟨ready, brought, loaded, narrowed⟩ := prints
  intro fails
  cases fails with
  | misconfigured wrong => exact ready.not_misconfigured wrong
  | unfetched again surfaced failed =>
    obtain ⟨rfl, rfl⟩ := ready.unique again
    obtain rfl := Option.some.inj (brought.symm.trans failed)
    cases loaded with
    | fetched succeeded => cases succeeded
    | concealed failed silent => cases surfaced.symm.trans silent
  | unmatched again brought' loaded' selective nowhere =>
    obtain ⟨rfl, rfl⟩ := ready.unique again
    obtain rfl := Option.some.inj (brought.symm.trans brought')
    obtain rfl := loaded.unique loaded'
    obtain ⟨c, there, hit⟩ := narrowed.exists_matches selective
    exact nowhere c there hit

theorem Waits.not_fails (waits : Waits s home library net a) : ¬ Fails s home library net a := by
  obtain ⟨ready, never⟩ := waits
  intro fails
  cases fails with
  | misconfigured wrong => exact ready.not_misconfigured wrong
  | unfetched again surfaced failed =>
    obtain ⟨rfl, rfl⟩ := ready.unique again
    cases never.symm.trans failed
  | unmatched again brought loaded selective nowhere =>
    obtain ⟨rfl, rfl⟩ := ready.unique again
    cases never.symm.trans brought

theorem Waits.not_prints {picked : List Channel} (waits : Waits s home library net a) :
    ¬ Prints s home library net a picked := by
  obtain ⟨ready, never⟩ := waits
  rintro ⟨again, brought, -, -⟩
  obtain ⟨rfl, rfl⟩ := ready.unique again
  cases never.symm.trans brought

theorem first_unique {before before' after after' : List Channel} {c c' : Channel}
    (same : before ++ c :: after = before' ++ c' :: after') (others : ∀ d ∈ before, ¬ Matches a d) (hit : Matches a c)
    (others' : ∀ d ∈ before', ¬ Matches a d) (hit' : Matches a c') : c = c' := by
  induction before generalizing before' with
  | nil =>
    cases before' with
    | nil =>
      cases same
      rfl
    | cons d rest =>
      cases same
      exact absurd hit (others' c List.mem_cons_self)
  | cons d rest ih =>
    cases before' with
    | nil =>
      cases same
      exact absurd hit' (others c' List.mem_cons_self)
    | cons e rest' =>
      obtain ⟨-, same⟩ := List.cons.inj same
      exact ih same (fun d there => others d (List.mem_cons_of_mem _ there))
        (fun d there => others' d (List.mem_cons_of_mem _ there))

theorem Narrowed.unique {channels one other : List Channel} (narrowed : Narrowed a channels one)
    (again : Narrowed a channels other) : one = other := by
  cases narrowed with
  | all name userId =>
    cases again with
    | all => rfl
    | first parts others hit =>
      rcases hit with hit | hit
      · cases name.symm.trans hit
      · cases userId.symm.trans hit
  | first parts others hit =>
    cases again with
    | all name userId =>
      rcases hit with hit | hit
      · cases name.symm.trans hit
      · cases userId.symm.trans hit
    | first parts' others' hit' =>
      rw [first_unique (parts.symm.trans parts') others hit others' hit']

theorem Prints.unique {one other : List Channel} (prints : Prints s home library net a one)
    (again : Prints s home library net a other) : one = other := by
  obtain ⟨ready, brought, loaded, narrowed⟩ := prints
  obtain ⟨ready', brought', loaded', narrowed'⟩ := again
  obtain ⟨rfl, rfl⟩ := ready.unique ready'
  obtain rfl := Option.some.inj (brought.symm.trans brought')
  obtain rfl := loaded.unique loaded'
  exact narrowed.unique narrowed'

/-- A list is printed unless there is a reason to fail, or it is waited for for ever. -/
theorem list_cases (net : Network) (library : Library) (hasHome : s.home = some home)
    (once : a.name = none ∨ a.userId = none) :
    (∃ picked, Prints s home library net a picked ∧ (list s library net a).1 = some (.ok (listing a.json picked))) ∨
      (Fails s home library net a ∧ ∃ failure, (list s library net a).1 = some (.error failure)) ∨
      (Waits s home library net a ∧ (list s library net a).1 = none) := by
  rcases feed_cases (a := a) library hasHome with ⟨settings, client, ready, feed⟩ | ⟨wrong, failure, failed⟩
  · simp only [list, feed, Feed.loadAlone_eq]
    cases brought : (client.fetchChannels net).1 with
    | none => exact .inr (.inr ⟨.waits ready brought, rfl⟩)
    | some fetched =>
      rcases present_cases settings fetched with ⟨channels, loaded, given⟩ | ⟨⟨surfaced, _, rfl⟩, failure, failed⟩
      · simp only [Option.map_some, given, Except.bind]
        rcases select_cases channels once with
          ⟨picked, narrowed, selected⟩ | ⟨⟨selective, nowhere⟩, failure, failed⟩
        · refine .inl ⟨picked, .prints ready brought loaded narrowed, ?_⟩
          simp only [selected, Except.map]
        · refine .inr (.inl ⟨.unmatched ready brought loaded selective nowhere, failure, ?_⟩)
          simp only [failed, Except.map]
      · refine .inr (.inl ⟨.unfetched ready surfaced brought, failure, ?_⟩)
        simp only [Option.map_some, failed, Except.bind]
  · refine .inr (.inl ⟨.misconfigured wrong, failure, ?_⟩)
    simp only [list, failed]

theorem Misconfigured.list_network (net : Network) (hasHome : s.home = some home)
    (wrong : Misconfigured s home a library) : (list s library net a).2 = net := by
  rcases feed_cases (a := a) library hasHome with ⟨settings, client, ready, -⟩ | ⟨-, failure, failed⟩
  · exact absurd wrong ready.not_misconfigured
  · simp only [list, failed]

theorem Ready.list_network {client : Client} (net : Network) (hasHome : s.home = some home)
    (ready : Ready s home a library settings client) : (list s library net a).2 = (client.fetchChannels net).2 := by
  rcases feed_cases (a := a) library hasHome with ⟨others, other, again, feed⟩ | ⟨wrong, -⟩
  · obtain ⟨rfl, rfl⟩ := ready.unique again
    simp only [list, feed, Feed.loadAlone_eq]
  · exact absurd wrong ready.not_misconfigured

/-- The limit for a fetch is that of the settings, so that the program waits for ever only if none is set. -/
theorem Waits.unlimited (waits : Waits s home library net a) :
    ∃ settings, Configured s home a settings ∧ settings.requestTimeoutSecs = none := by
  obtain @⟨settings, client, ⟨configured, -, -, accepted⟩, never⟩ := waits
  obtain ⟨-, -, limit⟩ := Client.make_eq_ok.mp accepted
  have unlimited : client.limit = none := by
    refine Option.not_isSome_iff_eq_none.mp fun limited => ?_
    exact fetchChannels_of_limit net limited never
  exact ⟨settings, configured, Option.map_eq_none_iff.mp (limit.symm.trans unlimited)⟩

/-! ## The program -/

/-- Whatever the arguments are, a program that fails prints nothing. -/
theorem Result.output_of_exitCode {result : Result} (failed : result.exitCode ≠ 0) : result.output = "" := by
  cases result with
  | help | printed => exact absurd rfl failed
  | wrongUse | failed => rfl

theorem run_list (net : Network) {arguments : List String} (asked : Request.ofArguments arguments = .list a) :
    run s library net arguments =
      ((list s library net a).1.map fun
        | .ok text => .printed text
        | .error failure => .failed failure, (list s library net a).2) := by
  simp only [run, asked]
  generalize list s library net a = listed
  obtain ⟨_ | _ | _, _⟩ := listed <;> rfl

end

/-- The program succeeds or prints nothing. With arguments that ask for a list it fails exactly if its settings file is
missing though named, unreadable or invalid, the base URL in use is missing, empty or refused by the client, a fetch fails
whose failure is surfaced, or no channel matches where a single one is asked for; in the first two cases no request is
made, and otherwise those of one fetch. It ends unless the settings set no limit and the service is waited for for ever.
When it does not fail it prints the list, narrowed to the first channel that matches: as an envelope, or a line for each
channel. -/
theorem lists_or_prints_nothing {s : Surroundings} {home : String} {arguments : List String} {a : Arguments}
    (library : Library) (net : Network) (hasHome : s.home = some home)
    (asked : Request.ofArguments arguments = .list a) :
    ((run s library net arguments).1 = none ↔ Waits s home library net a) ∧
    (Waits s home library net a → ∃ settings, Configured s home a settings ∧ settings.requestTimeoutSecs = none) ∧
    (Misconfigured s home a library → (run s library net arguments).2 = net) ∧
    (∀ settings client, Ready s home a library settings client →
      (run s library net arguments).2 = (client.fetchChannels net).2) ∧
    ∀ result, (run s library net arguments).1 = some result →
      (result.exitCode ≠ 0 ↔ Fails s home library net a) ∧
      (result.exitCode ≠ 0 → result.output = "") ∧
      (result.exitCode = 0 → ∃ picked, Prints s home library net a picked ∧
        result.output =
          if a.json then (envelope picked).pretty ++ "\n"
          else String.join (picked.map fun c => c.name ++ "\t" ++ c.userId ++ "\n")) := by
  rw [run_list net asked]
  refine ⟨?_, Waits.unlimited, fun wrong => wrong.list_network net hasHome,
    fun settings client ready => ready.list_network net hasHome, ?_⟩
  · rcases list_cases net library hasHome (picked_once asked) with
      ⟨picked, prints, printed⟩ | ⟨fails, failure, failed⟩ | ⟨waits, never⟩
    · rw [printed]
      exact ⟨nofun, fun waits => (waits.not_prints prints).elim⟩
    · rw [failed]
      exact ⟨nofun, fun waits => (waits.not_fails fails).elim⟩
    · rw [never]
      exact ⟨fun _ => waits, fun _ => rfl⟩
  · intro result ended
    refine ⟨?_, Result.output_of_exitCode, ?_⟩
    · rcases list_cases net library hasHome (picked_once asked) with
        ⟨picked, prints, printed⟩ | ⟨fails, failure, failed⟩ | ⟨-, never⟩
      · rw [printed] at ended
        cases ended
        exact ⟨fun nonzero => absurd rfl nonzero, fun fails => absurd fails prints.not_fails⟩
      · rw [failed] at ended
        cases ended
        exact ⟨fun _ => fails, fun _ => Nat.one_ne_zero⟩
      · rw [never] at ended
        cases ended
    · rcases list_cases net library hasHome (picked_once asked) with
        ⟨picked, prints, printed⟩ | ⟨fails, failure, failed⟩ | ⟨-, never⟩
      · rw [printed] at ended
        cases ended
        exact fun _ => ⟨picked, prints, rfl⟩
      · rw [failed] at ended
        cases ended
        exact fun zero => absurd zero Nat.one_ne_zero
      · rw [never] at ended
        cases ended

namespace OnLoopback

/-- A client of the service at `http://[::1]/`. -/
def client : Client where
  base :=
    ⟨⟨"http".toList, some ⟨[], [], .ipv6 [0, 0, 0, 0, 0, 0, 0, 1], none⟩, false, .listed [[]], none, none⟩, rfl⟩
  limit := none

def address : String := "http://[::1]/"

/-- There is no settings file, and the service is known from the environment. -/
def surroundings : Surroundings := ⟨fun _ => .error .notFound, some "/home", some (Utf8.encode address.toList)⟩

def named (name : String) : Arguments := { Arguments.none with name := some name }

theorem make_client : Client.make .obliging address none = .ok client := by
  have parsed : Url.parse address = .ok client.base.url := rfl
  have usable : BaseUrl.parse address = .ok client.base := by
    simp only [BaseUrl.parse, parsed]
    rfl
  exact Client.make_eq_ok.mpr ⟨usable, rfl, rfl⟩

theorem ready (a : Arguments) (unnamed : a.config = none) (silent : a.apiUrl = none) :
    Ready surroundings "/home" a .obliging .default client :=
  .ready (.absent unnamed rfl) (.environment silent rfl (by rfl) (by decide)) (by decide) make_client

theorem fetched : (client.fetchChannels OneChannel.net).1 = some (.ok [OneChannel.channel]) := by
  have replied : (OneChannel.net.exchange client.base.channels client.limit).1 =
    .answered 200 (some (.ok OneChannel.body)) := rfl
  exact fetchChannels_eq replied rfl OneChannel.read_body rfl nofun

theorem prints_of_matches (name : String) (hit : Matches (named name) OneChannel.channel) :
    Prints surroundings "/home" .obliging OneChannel.net (named name) [OneChannel.channel] :=
  .prints (ready _ rfl rfl) fetched (.fetched rfl)
    (.first (List.nil_append _).symm (fun _ none => nomatch none) hit)

theorem fails_of_not_matches (name : String) (miss : ¬ Matches (named name) OneChannel.channel) :
    Fails surroundings "/home" .obliging OneChannel.net (named name) :=
  .unmatched (ready _ rfl rfl) fetched (.fetched rfl) (.inl nofun) (List.forall_mem_singleton.mpr miss)

def silent : Network := .answering [⟨200, [], none, none, none, none⟩]

theorem waits_for_silent : Waits surroundings "/home" .obliging silent Arguments.none := .waits (ready _ rfl rfl) rfl

/-- Where the settings leave no time for the fetch and surface its failure, the program fails. -/
example :
    let hurried := "\x7b\"request_timeout_secs\":0,\"surface_errors\":true\x7d"
    (run { surroundings with file := fun _ => .ok (Utf8.encode hurried.toList) } .obliging OneChannel.net []).1.map
      Result.exitCode = some 1 := rfl

end OnLoopback

open OnLoopback in
/-- With a list of one channel the program prints the channel if it is asked for by its name, and nothing if it is asked
for by another. Without a limit it waits for a silent server for ever. -/
theorem lists_channel_named :
    (∃ printed, (run surroundings .obliging OneChannel.net ["--name", "é"]).1 = some printed ∧
      printed.exitCode = 0 ∧ printed.output = "é\tu1\n") ∧
    (∃ failed, (run surroundings .obliging OneChannel.net ["--name", "e"]).1 = some failed ∧
      failed.exitCode ≠ 0 ∧ failed.output = "") ∧
    (run surroundings .obliging silent []).1 = none := by
  have accepted : Request.ofArguments ["--name", "é"] = .list (named "é") := by decide +kernel
  have refused : Request.ofArguments ["--name", "e"] = .list (named "e") := by decide +kernel
  have hasHome : surroundings.home = some "/home" := rfl
  have prints := prints_of_matches "é" (.inl rfl)
  have fails := fails_of_not_matches "e" (by decide)
  obtain ⟨never, -, -, -, ends⟩ := lists_or_prints_nothing .obliging OneChannel.net hasHome accepted
  obtain ⟨never', -, -, -, ends'⟩ := lists_or_prints_nothing .obliging OneChannel.net hasHome refused
  refine ⟨?_, ?_, (lists_or_prints_nothing .obliging silent hasHome rfl).1.mpr waits_for_silent⟩
  · obtain ⟨printed, is⟩ := Option.ne_none_iff_exists'.mp fun none => (never.mp none).not_prints prints
    obtain ⟨failing, -, printing⟩ := ends printed is
    have zero : printed.exitCode = 0 := Decidable.byContradiction fun nonzero => prints.not_fails (failing.mp nonzero)
    obtain ⟨picked, prints', text⟩ := printing zero
    obtain rfl := prints'.unique prints
    exact ⟨printed, is, zero, text⟩
  · obtain ⟨failed, is⟩ := Option.ne_none_iff_exists'.mp fun none => (never'.mp none).not_fails fails
    obtain ⟨failing, silent, -⟩ := ends' failed is
    exact ⟨failed, is, failing.mpr fails, silent (failing.mpr fails)⟩

end ChannelFeed.CommandLine
