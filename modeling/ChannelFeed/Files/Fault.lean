import ChannelFeed.Text.Quoted

/-!
# What can go wrong with a file

The faults of file access, numbered as the operating system numbers them, and the two that are noticed
before or after it is asked.
-/

namespace ChannelFeed.Files

inductive Fault where
  | notFound
  | isDirectory
  | notDirectory
  | nameTooLong
  | notText
  | nulInPath
deriving DecidableEq, Repr

/-- The number, kind and wording of a fault of the operating system. -/
def Fault.system : Fault → Option (Nat × String × String)
  | .notFound => some (2, "NotFound", "No such file or directory")
  | .isDirectory => some (21, "IsADirectory", "Is a directory")
  | .notDirectory => some (20, "NotADirectory", "Not a directory")
  | .nameTooLong => some (36, "InvalidFilename", "File name too long")
  | .notText => none
  | .nulInPath => none

/-- The kind and wording of the other faults. -/
def Fault.own : Fault → String × String
  | .nulInPath => ("InvalidInput", "file name contained an unexpected NUL byte")
  | _ => ("InvalidData", "stream did not contain valid UTF-8")

def Fault.message (f : Fault) : String :=
  match f.system with
  | some (number, _, text) => text ++ " (os error " ++ toString number ++ ")"
  | none => f.own.2

def Fault.parts (f : Fault) : String :=
  match f.system with
  | some (number, kind, text) =>
    "Os \x7b code: " ++ toString number ++ ", kind: " ++ kind ++ ", message: " ++ Text.quoted text ++
      " \x7d"
  | none =>
    "Error \x7b kind: " ++ f.own.1 ++ ", message: " ++ Text.quoted f.own.2 ++ " \x7d"

end ChannelFeed.Files
