import ChannelFeed.Feed.Options
import ChannelFeed.Files.Tree
import ChannelFeed.Settings.Basic

/-!
# Loading and saving settings

Settings come from a file and from the environment. A file that is named must exist; the file of the user
need not. The address in the environment, unless it is empty or no text, goes before that of the file.
-/

namespace ChannelFeed

/-- Where settings come from. -/
structure Surroundings where
  file : String → Except Files.Fault (List UInt8)
  home : Option String
  /-- The address of the service, as the environment gives it. -/
  address : Option (List UInt8)

namespace Settings

/-- The variable of the environment that holds the address of the service. -/
def addressVariable : String := "CHANNEL_LIST_API_URL"

def userFile (home : String) : String :=
  (if home.endsWith "/" then home else home ++ "/") ++ ".config/channel_list.json"

def userFile? (home : Option String) : Except Failure String :=
  match home with
  | some home => .ok (userFile home)
  | none => .error .homeNotFound

def ofBytes (bytes : List UInt8) : Except Failure Settings :=
  match Files.textOf bytes with
  | .error fault => .error (.files fault)
  | .ok _ =>
    match Settings.read bytes with
    | .error fault => .error (.settings fault)
    | .ok settings => .ok settings

/-- The settings in a file, or `none` if there is no such file. -/
def inFile? (s : Surroundings) (path : String) : Except Failure (Option Settings) :=
  match s.file path with
  | .error .notFound => .ok none
  | .error fault => .error (.files fault)
  | .ok bytes => (ofBytes bytes).map some

/-- The text of an address, unless it is empty or no text. -/
def addressText? (address : Option (List UInt8)) : Option String :=
  (address.bind fun bytes => (Files.textOf bytes).toOption).filter (· ≠ "")

def withAddress (settings : Settings) (address : Option (List UInt8)) : Settings :=
  match addressText? address with
  | some url => { settings with apiBaseUrl := some url }
  | none => settings

/-- The settings of a named file, or of the user. -/
def load (s : Surroundings) (path : Option String) : Except Failure Settings := do
  let settings ← match path with
    | some path =>
      match ← inFile? s path with
      | some settings => pure settings
      | none => throw (.settingsNotFound path)
    | none => pure ((← inFile? s (← userFile? s.home)).getD default)
  return settings.withAddress s.address

/-- For how long a client with these settings waits. -/
def limit (s : Settings) : Http.Limit := s.requestTimeoutSecs.map (·.val * 1000)

def options (s : Settings) : Options where
  refetchOnFocus := s.refetchOnWindowFocus
  refetchOnReconnect := s.refetchOnReconnect
  policy := if s.surfaceErrors then .surface else .conceal

/-- Saves settings in a named file, or in that of the user. What the file held before is lost. -/
def save (settings : Settings) (tree : Files.Tree) (home : Option String) (path : Option String) :
    Except Failure Files.Tree := do
  let path ← match path with
    | some path => pure path
    | none => userFile? home
  (tree.write path settings.text.toUTF8.toList).mapError .files

end Settings

end ChannelFeed
