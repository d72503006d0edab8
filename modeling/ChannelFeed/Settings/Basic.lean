import ChannelFeed.Failure
import ChannelFeed.Json.Printer
import ChannelFeed.Json.Typed

/-!
# Settings

What a user can configure, its text form and how it is decoded. Every setting has a default, and members
that are no settings are passed over.
-/

namespace ChannelFeed

open Json Json.Reader

structure Settings where
  apiBaseUrl : Option String
  refetchOnWindowFocus : Bool
  refetchOnReconnect : Bool
  surfaceErrors : Bool
  requestTimeoutSecs : Option (Fin UInt64.size)
deriving DecidableEq

namespace Settings

def default : Settings := ⟨none, false, false, false, none⟩

def baseUrl (s : Settings) : Except Failure String :=
  match s.apiBaseUrl with
  | some url => if url = "" then .error .missingBaseUrl else .ok url
  | none => .error .missingBaseUrl

/-- The settings as they are written, each of them. -/
def document (s : Settings) : Json :=
  .object [
    ("api_base_url", s.apiBaseUrl.elim .null .string),
    ("refetch_on_window_focus", .bool s.refetchOnWindowFocus),
    ("refetch_on_reconnect", .bool s.refetchOnReconnect),
    ("surface_errors", .bool s.surfaceErrors),
    ("request_timeout_secs", s.requestTimeoutSecs.elim .null fun n => Json.natural n.val n.isLt)]

def text (s : Settings) : String := s.document.pretty

/-- The settings given so far. -/
structure Given where
  apiBaseUrl : Option (Option String)
  refetchOnWindowFocus : Option Bool
  refetchOnReconnect : Option Bool
  surfaceErrors : Option Bool
  requestTimeoutSecs : Option (Option (Fin UInt64.size))

def Given.settings (g : Given) : Settings where
  apiBaseUrl := g.apiBaseUrl.getD none
  refetchOnWindowFocus := g.refetchOnWindowFocus.getD false
  refetchOnReconnect := g.refetchOnReconnect.getD false
  surfaceErrors := g.surfaceErrors.getD false
  requestTimeoutSecs := g.requestTimeoutSecs.getD none

def secondsReader : Reader (Option (Fin UInt64.size)) := optional natural

def member (_room : Nat) (key : String) (g : Given) : Reader Given :=
  if key = "api_base_url" then
    return { g with apiBaseUrl := ← field key g.apiBaseUrl (optional string) }
  else if key = "refetch_on_window_focus" then
    return { g with refetchOnWindowFocus := ← field key g.refetchOnWindowFocus bool }
  else if key = "refetch_on_reconnect" then
    return { g with refetchOnReconnect := ← field key g.refetchOnReconnect bool }
  else if key = "surface_errors" then
    return { g with surfaceErrors := ← field key g.surfaceErrors bool }
  else if key = "request_timeout_secs" then
    return { g with requestTimeoutSecs := ← field key g.requestTimeoutSecs secondsReader }
  else do
    passMember
    return g

def fromArray (_room : Nat) : Reader Settings := do
  let apiBaseUrl ← nextField true (optional string) none
  let refetchOnWindowFocus ← nextField false bool false
  let refetchOnReconnect ← nextField false bool false
  let surfaceErrors ← nextField false bool false
  let requestTimeoutSecs ← nextField false secondsReader none
  return { apiBaseUrl, refetchOnWindowFocus, refetchOnReconnect, surfaceErrors, requestTimeoutSecs }

def record : Record Given Settings where
  name := "Settings"
  start := ⟨none, none, none, none, none⟩
  member := member
  finish g := .ok g.settings
  fromArray := some fromArray

/-- Settings from the text of a settings file. -/
def read (bytes : List UInt8) : Except Fault Settings :=
  whole? (Reader.record record maxDepth) bytes

end Settings

end ChannelFeed
