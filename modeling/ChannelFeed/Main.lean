import ChannelFeed.CommandLine.Listing

/-!
# The program

Reads the environment and the settings file, and lists the channels. No transport is linked in, so that
every host is out of reach and the program always ends. What is logged is left out.
-/

namespace ChannelFeed.Program

open CommandLine

/-- The fault behind an error of the operating system, if the library knows it. Some calls give the number
of an error negated. -/
def faultOf (code : UInt32) : Option Files.Fault :=
  [Files.Fault.notFound, .isDirectory, .notDirectory, .nameTooLong].find? fun fault =>
    fault.system.any fun (number, _, _) => code == .ofNat number || 0 - code == .ofNat number

/-- The number that the operating system gave an error. -/
def codeOf : IO.Error → Option UInt32
  | .noFileOrDirectory _ code _ => some code
  | .inappropriateType _ code _ => some code
  | .invalidArgument _ code _ => some code
  | .otherError code _ => some code
  | _ => none

/-- The bytes of a file, or the fault that reading it meets. -/
def readFile (path : String) : IO (Except Files.Fault (List UInt8)) := do
  match Files.Path.ofText path with
  | .error fault => return .error fault
  | .ok _ =>
    try
      return .ok (← IO.FS.readBinFile path).toList
    catch e =>
      match (codeOf e).bind faultOf with
      | some fault => return .error fault
      | none => throw e

def settingsFile? (home : Option String) (arguments : List String) : Option String :=
  match Request.ofArguments arguments with
  | .list a => a.config.or (home.map Settings.userFile)
  | _ => none

def run (arguments : List String) : IO (Option Result) := do
  let home := (← IO.getEnv "HOME").filter (· ≠ "")
  let address := (← IO.getEnv Settings.addressVariable).map (·.toUTF8.toList)
  let content ← match settingsFile? home arguments with
    | some path => readFile path
    | none => pure (.error .notFound)
  return (CommandLine.run ⟨fun _ => content, home, address⟩ .obliging .unreachable arguments).1

end ChannelFeed.Program

def main (arguments : List String) : IO UInt32 := do
  let some result ← ChannelFeed.Program.run arguments | return 1
  IO.print result.output
  match result with
  | .wrongUse => IO.eprintln "error: wrong arguments\n\nFor more information, try '--help'."
  | _ =>
    match result.errorLine? with
    | some line => IO.eprintln line
    | none => pure ()
  return UInt32.ofNat result.exitCode
