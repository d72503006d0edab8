import ChannelFeed.Url.Host

/-!
# URLs

A URL is held in its parts, each in the form in which it is written. The path of most URLs is a list of
segments; `/a/b/` has three, the last of them empty. Other URLs have a path that is a single text.
-/

namespace ChannelFeed

/-- Where a URL leads: who asks, the host and the port. The default port of a scheme is not held. -/
structure Url.Authority where
  userName : List Char
  password : List Char
  host : Url.Host
  port : Option Nat
deriving DecidableEq, Repr

inductive Url.Path where
  | listed (segments : List (List Char))
  | plain (text : List Char)
deriving DecidableEq, Repr

structure Url where
  scheme : List Char
  authority : Option Url.Authority
  /-- Whether `/.` stands in front of the path, lest it be taken for an authority. -/
  guarded : Bool
  path : Url.Path
  query : Option (List Char)
  fragment : Option (List Char)
deriving DecidableEq, Repr

namespace Url

/-- What a scheme says about the URLs that have it. -/
inductive SchemeKind where
  | file
  | special
  | other
deriving DecidableEq

def schemeKind (scheme : List Char) : SchemeKind :=
  if scheme = "file".toList then .file
  else if scheme ∈ ["http", "https", "ftp", "ws", "wss"].map String.toList then .special
  else .other

def SchemeKind.isKnown : SchemeKind → Bool
  | .other => false
  | _ => true

def defaultPort (scheme : List Char) : Option Nat :=
  if scheme = "http".toList ∨ scheme = "ws".toList then some 80
  else if scheme = "https".toList ∨ scheme = "wss".toList then some 443
  else if scheme = "ftp".toList then some 21
  else none

def Path.list : Path → List (List Char)
  | .listed segments => segments
  | .plain _ => []

def Path.chars : Path → List Char
  | .listed segments => segments.flatMap ('/' :: ·)
  | .plain text => text

def Authority.userInfo (a : Authority) : List Char :=
  let password := if a.password = [] then [] else ':' :: a.password
  if a.userName = [] ∧ a.password = [] then [] else a.userName ++ password ++ ['@']

def Authority.portChars (a : Authority) : List Char :=
  match a.port with
  | none => []
  | some port => ':' :: Nat.toDigits 10 port

def Authority.chars (a : Authority) : List Char :=
  '/' :: '/' :: a.userInfo ++ a.host.text ++ a.portChars

def tail (u : Url) : List Char :=
  u.query.elim [] ('?' :: ·) ++ u.fragment.elim [] ('#' :: ·)

def chars (u : Url) : List Char :=
  u.scheme ++ ':' :: u.authority.elim [] Authority.chars ++ (if u.guarded then ['/', '.'] else []) ++
    u.path.chars ++ u.tail

def text (u : Url) : String := String.ofList u.chars

/-- The URL without user name and password. -/
def anonymous (u : Url) : Url :=
  { u with authority := u.authority.map fun a => { a with userName := [], password := [] } }

/-- Whether user name and password can be taken for credentials: the name must be text, and if it is
empty, there must be a password that is text. -/
def Authority.hasCredentials (a : Authority) : Bool :=
  match Utf8.decode (percentDecode a.userName) with
  | none => false
  | some [] => a.password ≠ [] && (Utf8.decode (percentDecode a.password)).isSome
  | some _ => true

/-- The URL without its credentials, which are sent apart from it. -/
def withoutCredentials (u : Url) : Url :=
  if u.authority.any Authority.hasCredentials then u.anonymous else u

def withoutFragment (u : Url) : Url := { u with fragment := none }

/-- Whether the path is a single text, to which no segment can be added. -/
def hasPlainPath (u : Url) : Bool :=
  match u.path with
  | .plain _ => true
  | .listed _ => false

/-- A letter and a colon or bar, which name a drive at the beginning of a segment. -/
def isDriveLetter : List Char → Bool
  | [c, d] => c.isAlpha && (d = ':' || d = '|')
  | _ => false

/-- Whether a segment begins with a drive letter that ends there or is parted from what follows. -/
def beginsWithDriveLetter : List Char → Bool
  | [c, d] => isDriveLetter [c, d]
  | c :: d :: e :: _ => isDriveLetter [c, d] && "/\\?#".toList.contains e
  | _ => false

/-- A segment that means the path as it is. -/
def isDot (segment : List Char) : Bool :=
  segment = ['.'] || segment.map Char.toLower = "%2e".toList

/-- A segment that means the path less its last segment. -/
def isDoubleDot (segment : List Char) : Bool :=
  [".." , "%2e.", ".%2e", "%2e%2e"].map String.toList |>.contains (segment.map Char.toLower)

/-- A path less its last segment. A drive letter is never taken away. -/
def parent (segments : List (List Char)) : List (List Char) :=
  match segments.getLast? with
  | some last => if beginsWithDriveLetter last then segments else segments.dropLast
  | none => []

/-- Adds a segment behind a path. Dots are resolved; if they come last, the path ends in a slash. A drive
letter at the beginning of the path of a file has a colon. -/
def addSegment (kind : SchemeKind) (isLast : Bool) (done : List (List Char)) (segment : List Char) :
    List (List Char) :=
  let closed (path : List (List Char)) := if isLast then path ++ [[]] else path
  if isDoubleDot segment then closed (parent done)
  else if isDot segment then closed done
  else if kind = .file ∧ done = [] ∧ isDriveLetter segment then [segment.take 1 ++ [':']]
  else done ++ [segment]

def addSegments (kind : SchemeKind) (done : List (List Char)) : List (List Char) → List (List Char)
  | [] => done
  | [last] => addSegment kind true done last
  | segment :: rest => addSegments kind (addSegment kind false done segment) rest

/-- The path of a file without the empty segments at its beginning. -/
def withoutLeadingEmpty : List (List Char) → List (List Char)
  | [] :: next :: rest => withoutLeadingEmpty (next :: rest)
  | segments => segments

def tidy (kind : SchemeKind) (segments : List (List Char)) : List (List Char) :=
  if kind = .file then withoutLeadingEmpty segments else segments

end Url

end ChannelFeed
