import ChannelFeed.Files.Fault
import ChannelFeed.Text.CodeRanges
import ChannelFeed.Text.Utf8

/-!
# Files

A tree of directories and files, and what comes of opening a file by its path. A path is followed name by
name from the root, so that the first name that leads nowhere decides the fault.
-/

namespace ChannelFeed.Files

inductive Node where
  | directory
  | file (bytes : List UInt8)
deriving DecidableEq

abbrev Place := List String

/-- All places that hold something, but for the root. -/
structure Tree where
  nodes : List (Place × Node)

structure Path where
  names : List String
  /-- Whether the path ends in a slash, so that it can only be that of a directory. -/
  endsInSlash : Bool

def maxName : Nat := 255

def maxPath : Nat := 4095

def Path.ofText (text : String) : Except Fault Path :=
  let cs := text.toList
  if cs.contains '\x00' then .error .nulInPath
  else if cs = [] then .error .notFound
  else if maxPath < text.utf8ByteSize then .error .nameTooLong
  else
    let names := (CodeRanges.pieces (· = '/') cs).filter (· ≠ [])
    .ok ⟨names.map String.ofList, cs.getLast? = some '/'⟩

namespace Tree

def empty : Tree := ⟨[]⟩

def node? (t : Tree) (place : Place) : Option Node :=
  if place = [] then some .directory else t.nodes.lookup place

/-- The place to which a name leads. One dot stays and two dots go back, but not behind the root. -/
def enter (here : Place) (name : String) : Place :=
  if name = "." then here else if name = ".." then here.dropLast else here ++ [name]

def find (t : Tree) (here : Place) (name : String) : Except Fault (Place × Option Node) :=
  if maxName < name.utf8ByteSize then .error .nameTooLong
  else .ok (enter here name, t.node? (enter here name))

def walk (t : Tree) (here : Place) : List String → Except Fault Place
  | [] => .ok here
  | name :: rest =>
    match t.find here name with
    | .error fault => .error fault
    | .ok (_, none) => .error .notFound
    | .ok (_, some (.file _)) => .error .notDirectory
    | .ok (there, some .directory) => t.walk there rest

def read (t : Tree) (text : String) : Except Fault (List UInt8) := do
  let path ← Path.ofText text
  let here ← t.walk [] path.names.dropLast
  match path.names.getLast? with
  | none => .error .isDirectory
  | some name =>
    match ← t.find here name with
    | (_, none) => .error .notFound
    | (_, some .directory) => .error .isDirectory
    | (_, some (.file bytes)) => if path.endsInSlash then .error .notDirectory else .ok bytes

/-- The tree with something else at a place. -/
def put (t : Tree) (place : Place) (node : Node) : Tree :=
  ⟨(place, node) :: t.nodes.filter (·.1 ≠ place)⟩

/-- Writes a file, which is made if there is none. Its directory must be there. -/
def write (t : Tree) (text : String) (bytes : List UInt8) : Except Fault Tree := do
  let path ← Path.ofText text
  let here ← t.walk [] path.names.dropLast
  match path.names.getLast? with
  | none => .error .isDirectory
  | some name =>
    if path.endsInSlash then .error .isDirectory
    else
      match ← t.find here name with
      | (_, some .directory) => .error .isDirectory
      | (there, _) => .ok (t.put there (.file bytes))

/-- Makes the directories on a way, as far as they are not there. -/
def makeAlong (t : Tree) (here : Place) : List String → Except Fault Tree
  | [] => .ok t
  | name :: rest =>
    match t.find here name with
    | .error fault => .error fault
    | .ok (there, none) => (t.put there .directory).makeAlong there rest
    | .ok (_, some (.file _)) => .error .notDirectory
    | .ok (there, some .directory) => t.makeAlong there rest

def makeDirectory (t : Tree) (text : String) : Except Fault Tree := do
  t.makeAlong [] (← Path.ofText text).names

/-- Writes a file and makes the directories in which it lies. -/
def writeWithParents (t : Tree) (text : String) (bytes : List UInt8) : Except Fault Tree := do
  (← t.makeAlong [] (← Path.ofText text).names.dropLast).write text bytes

end Tree

def textOf (bytes : List UInt8) : Except Fault String :=
  match Utf8.decode bytes with
  | some cs => .ok (String.ofList cs)
  | none => .error .notText

end ChannelFeed.Files
