import ChannelFeed.Settings.Loading

/-!
# Sessions

A session works on the files of one user by commands. It remembers the settings that were last loaded or
saved.
-/

namespace ChannelFeed.Settings

inductive Command where
  /-- Writes a file, with the directories in which it lies. -/
  | write (path : String) (bytes : List UInt8)
  | makeDirectory (path : String)
  | read (path : String)
  | load (path : Option String) (address : Option (List UInt8))
  /-- Saves settings, or those that are remembered. -/
  | save (path : Option String) (settings : Option Settings)

inductive Answer where
  | nothing
  | text (text : Option String)
  | loaded (settings : Except Failure Settings)
  | saved (result : Except Failure Unit)

structure Session where
  tree : Files.Tree
  home : Option String
  remembered : Settings

namespace Session

/-- A user whose home is given, and who has no files. -/
def start (home : Option String) : Session := ⟨.empty, home, .default⟩

def surroundings (s : Session) (address : Option (List UInt8)) : Surroundings :=
  ⟨s.tree.read, s.home, address⟩

def step (s : Session) : Command → Answer × Session
  | .write path bytes => (.nothing, { s with tree := (s.tree.writeWithParents path bytes).toOption.getD s.tree })
  | .makeDirectory path => (.nothing, { s with tree := (s.tree.makeDirectory path).toOption.getD s.tree })
  | .read path => (.text ((s.tree.read path).bind Files.textOf).toOption, s)
  | .load path address =>
    match load (s.surroundings address) path with
    | .ok settings => (.loaded (.ok settings), { s with remembered := settings })
    | .error failure => (.loaded (.error failure), s)
  | .save path settings =>
    let settings := settings.getD s.remembered
    match settings.save s.tree s.home path with
    | .ok tree => (.saved (.ok ()), { s with tree, remembered := settings })
    | .error failure => (.saved (.error failure), { s with remembered := settings })

/-- Carries out commands in turn and collects the answers. -/
def run (s : Session) : List Command → List Answer
  | [] => []
  | command :: rest =>
    let (answer, s) := s.step command
    answer :: s.run rest

end Session

end ChannelFeed.Settings
