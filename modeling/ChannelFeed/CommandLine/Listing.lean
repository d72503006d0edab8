import ChannelFeed.Channel.Selection
import ChannelFeed.CommandLine.Arguments
import ChannelFeed.Feed.Loading
import ChannelFeed.Json.Printer
import ChannelFeed.Settings.Loading

/-!
# Listing channels

The work of the program: settings, feed, selection, output. The first step that fails ends it, and then
nothing is printed. It never ends if the service lets it wait for ever. What is logged is left out.
-/

namespace ChannelFeed.CommandLine

open Http

/-- What the program comes to. -/
inductive Result where
  | help
  | wrongUse
  | printed (text : String)
  | failed (failure : Failure)

namespace Result

def exitCode : Result → Nat
  | .help | .printed _ => 0
  | .failed _ => 1
  | .wrongUse => 2

def output : Result → String
  | .help => helpText
  | .printed text => text
  | .wrongUse | .failed _ => ""

def errorLine? : Result → Option String
  | .failed failure => some ("Error: " ++ failure.parts)
  | _ => none

end Result

def line (c : Channel) : String := c.name ++ "\t" ++ c.userId ++ "\n"

def listing (json : Bool) (channels : List Channel) : String :=
  if json then (envelope channels).pretty ++ "\n" else String.join (channels.map line)

def withAddress (a : Arguments) (settings : Settings) : Settings :=
  match a.apiUrl with
  | some url => { settings with apiBaseUrl := some url }
  | none => settings

def feed (s : Surroundings) (library : Library) (a : Arguments) : Except Failure Feed := do
  let settings := withAddress a (← Settings.load s a.config)
  let client ← Client.make library (← settings.baseUrl) settings.limit
  return ⟨client, settings.options, 0⟩

/-- Lists the channels, unless they are waited for for ever. -/
def list (s : Surroundings) (library : Library) (net : Network) (a : Arguments) :
    Option (Except Failure String) × Network :=
  match feed s library a with
  | .error failure => (some (.error failure), net)
  | .ok feed =>
    let (loaded, net) := feed.loadAlone net
    (loaded.map fun loaded =>
      loaded.bind fun channels => (select channels a.name a.userId).map (listing a.json), net)

/-- The program, which comes to nothing if it never ends. -/
def run (s : Surroundings) (library : Library) (net : Network) (arguments : List String) : Option Result × Network :=
  match Request.ofArguments arguments with
  | .help => (some .help, net)
  | .wrongUse => (some .wrongUse, net)
  | .list a =>
    match list s library net a with
    | (some (.ok text), net) => (some (.printed text), net)
    | (some (.error failure), net) => (some (.failed failure), net)
    | (none, net) => (none, net)

end ChannelFeed.CommandLine
