import ChannelFeed.Url.Basic

/-!
# Reading URLs

A text is read from the front: scheme, authority, path, query, fragment. Controls and blanks around it
and line breaks and tabs inside it do not count. A text without a scheme is read against a base.
-/

namespace ChannelFeed.Url

def isBreak (c : Char) : Bool := c = '\t' || c = '\n' || c = '\r'

/-- The text that counts. -/
def clean (text : List Char) : List Char :=
  let outer (c : Char) : Bool := c.toNat ≤ 0x20
  (((text.dropWhile outer).reverse.dropWhile outer).reverse).filter (!isBreak ·)

def splitScheme? : List Char → Option (List Char × List Char)
  | [] => none
  | first :: rest =>
    let inScheme (c : Char) : Bool := c.isAlphanum || "+-.".toList.contains c
    match (first :: rest).dropWhile inScheme with
    | ':' :: after =>
      if first.isAlpha then some (((first :: rest).takeWhile inScheme).map Char.toLower, after) else none
    | _ => none

/-- Whether a character parts segments of a path. -/
def isSlash (kind : SchemeKind) (c : Char) : Bool := c = '/' || (kind.isKnown && c = '\\')

def endsPath (c : Char) : Bool := c = '?' || c = '#'

def endsAuthority (kind : SchemeKind) (c : Char) : Bool := isSlash kind c || endsPath c

/-- The part of an authority before its last at sign, if it has one, and the part behind it. -/
def splitUserInfo (authority : List Char) : Option (List Char) × List Char :=
  match authority.reverse.dropWhile (· ≠ '@') with
  | [] => (none, authority)
  | _ :: before => (some before.reverse, (authority.reverse.takeWhile (· ≠ '@')).reverse)

/-- User name and password; the first colon parts them. -/
def readUserInfo (info : List Char) : List Char × List Char :=
  (percentEncode .userInfo (info.takeWhile (· ≠ ':')),
    percentEncode .userInfo ((info.dropWhile (· ≠ ':')).drop 1))

/-- The end of a host: a colon outside of brackets. -/
def splitPort (inBrackets : Bool) : List Char → List Char × Option (List Char)
  | [] => ([], none)
  | c :: rest =>
    if c = ':' ∧ !inBrackets then ([], some rest)
    else
      let (host, port) := splitPort (if c = '[' then true else if c = ']' then false else inBrackets) rest
      (c :: host, port)

def readPort (text : List Char) : Except Fault (Option Nat) :=
  let digits := text.takeWhile Char.isDigit
  let port := digits.foldl (fun n c => n * 10 + (c.toNat - '0'.toNat)) 0
  if port > 65535 ∨ digits ≠ text then .error .badPort
  else .ok (if digits = [] then none else some port)

/-- The authority of a URL that is no file, from its text, and what is left of the text. Where a backslash
is no slash, it still ends a port. `atEnd` says that nothing follows the text. -/
def readAuthority (scheme : List Char) (text : List Char) (atEnd : Bool) :
    Except Fault (Authority × List Char) := do
  let kind := schemeKind scheme
  let (info, place) := splitUserInfo text
  if info = some [] ∧ place = [] ∧ !atEnd then .error .emptyHost
  let (userName, password) := readUserInfo (info.getD [])
  let (hostText, portText) := splitPort false place
  if kind.isKnown ∧ hostText = [] then .error .emptyHost
  let host ← if kind.isKnown then Host.ofText hostText else Host.ofOpaque hostText
  if host = .name [] ∧ portText.isSome then .error .emptyHost
  let port ← readPort ((portText.getD []).takeWhile (· ≠ '\\'))
  if host = .name [] ∧ (userName ≠ [] ∨ password ≠ []) then .error .emptyHost
  let port := if port = defaultPort scheme then none else port
  return ({ userName, password, host, port }, (portText.getD []).dropWhile (· ≠ '\\'))

def pathSegments (kind : SchemeKind) (text : List Char) : List (List Char) :=
  (CodeRanges.pieces (isSlash kind) text).map (percentEncode .path)

def readTail (kind : SchemeKind) (text : List Char) : Option (List Char) × Option (List Char) :=
  let (query, rest) := match text with
    | '?' :: after =>
      (some (percentEncode (if kind.isKnown then .specialQuery else .query) (after.takeWhile (· ≠ '#'))),
        after.dropWhile (· ≠ '#'))
    | _ => (none, text)
  match rest with
  | '#' :: after => (query, some (percentEncode .fragment after))
  | _ => (query, none)

/-- Whether a path would be taken for an authority if it stood right behind the scheme. -/
def needsGuard (authority : Option Authority) (path : Path) : Bool :=
  match authority, path with
  | none, .listed ([] :: _ :: _) => true
  | _, _ => false

/-- The path that has begun with `done` and continues with the text up to its end. -/
def readPath (kind : SchemeKind) (done : List (List Char)) (text : List Char) : List (List Char) :=
  addSegments kind done (pathSegments kind (text.takeWhile (!endsPath ·)))

/-- The URL whose path has begun with `done` and continues with the text. -/
def finish (scheme : List Char) (authority : Option Authority) (done : List (List Char))
    (text : List Char) : Url :=
  let kind := schemeKind scheme
  let path := .listed (tidy kind (readPath kind done text))
  let (query, fragment) := readTail kind (text.dropWhile (!endsPath ·))
  { scheme, authority, guarded := needsGuard authority path, path, query, fragment }

/-- The URL with an authority, whose path is still to be read. Known schemes have at least the root. -/
def finishAuthority (scheme : List Char) (authority : Authority) (text : List Char) : Url :=
  let kind := schemeKind scheme
  match text with
  | c :: rest =>
    if isSlash kind c then finish scheme (some authority) [] rest
    else if endsPath c ∧ !kind.isKnown then
      let (query, fragment) := readTail kind text
      { scheme, authority := some authority, guarded := false, path := .listed [], query, fragment }
    else finish scheme (some authority) [] text
  | [] =>
    if kind.isKnown then finish scheme (some authority) [] []
    else
      { scheme, authority := some authority, guarded := false, path := .listed [], query := none,
        fragment := none }

def readBehindSlashes (scheme : List Char) (text : List Char) : Except Fault Url := do
  let kind := schemeKind scheme
  let rest := text.dropWhile (!endsAuthority kind ·)
  let (authority, left) ← readAuthority scheme (text.takeWhile (!endsAuthority kind ·)) rest.isEmpty
  return finishAuthority scheme authority (left ++ rest)

def fileAuthority (host : Host) : Authority := ⟨[], [], host, none⟩

/-- Whether a text begins with a drive letter as its first segment. -/
def beginsWithDrive (text : List Char) : Bool := beginsWithDriveLetter text

/-- A file URL with a host, from behind its two slashes. A drive letter is no host, and a path that begins
with one leaves no room for a host. This machine has no name; the slash behind no name begins the path with
an empty segment, so that a drive letter does not come first. -/
def readFileHost (text : List Char) : Except Fault Url :=
  let hostText := text.takeWhile fun c => !endsAuthority .file c
  let rest := text.dropWhile fun c => !endsAuthority .file c
  let located (host : Host) (text : List Char) : Url :=
    finish "file".toList (some (fileAuthority host)) [] text
  if isDriveLetter hostText then .ok (located (.name []) text)
  else if hostText = [] then .ok (located (.name []) rest)
  else do
    let host ← Host.ofText hostText
    if host = .name "localhost".toList then return located (.name []) rest
    let path := if rest.head?.any (isSlash .file) then rest.drop 1 else rest
    let hasDrive := (readPath .file [] path).head?.any isDriveLetter
    return located (if hasDrive then .name [] else host) path

/-- What a file URL takes over from its base when its path begins with one slash: the drive, or else the
host. -/
def fileRoot (base : Option Url) (text : List Char) : Authority × List (List Char) :=
  match base with
  | none => (fileAuthority (.name []), [])
  | some b =>
    let drive := match b.path.list with
      | first :: _ => if isDriveLetter first then [first] else []
      | [] => []
    if beginsWithDrive text then (fileAuthority (.name []), [])
    else if drive ≠ [] then (fileAuthority (.name []), drive)
    else (b.authority.getD (fileAuthority (.name [])), [])

/-- The path that a relative one continues: all but the last segment. The drive of a file stays. -/
def directory (kind : SchemeKind) (segments : List (List Char)) : List (List Char) :=
  match segments.getLast? with
  | some [c, ':'] => if kind = .file ∧ c.isAlpha then segments else segments.dropLast
  | _ => segments.dropLast

/-- A URL that shares everything up to its path with the base and goes on from there. -/
def relativeTo (base : Url) (text : List Char) : Url :=
  let kind := schemeKind base.scheme
  match text with
  | [] => base.withoutFragment
  | '#' :: after => { base with fragment := some (percentEncode .fragment after) }
  | '?' :: _ =>
    let (query, fragment) := readTail kind text
    { base with query, fragment }
  | _ => finish base.scheme base.authority (directory kind base.path.list) text

/-- A file URL behind its scheme, or without one against a base that is a file. -/
def readFile (base : Option Url) (text : List Char) : Except Fault Url :=
  let scheme := "file".toList
  match text with
  | a :: rest =>
    if isSlash .file a then
      match rest with
      | b :: after =>
        if isSlash .file b then readFileHost after
        else
          let (authority, done) := fileRoot base rest
          .ok (finish scheme (some authority) done rest)
      | [] =>
        let (authority, done) := fileRoot base rest
        .ok (finish scheme (some authority) done rest)
    else
      match base with
      | some b =>
        if beginsWithDrive text then .ok (finish scheme (some (fileAuthority (.name []))) [] text)
        else .ok (relativeTo b text)
      | none => .ok (finish scheme (some (fileAuthority (.name []))) [] text)
  | [] =>
    match base with
    | some b => .ok b.withoutFragment
    | none => .ok (finish scheme (some (fileAuthority (.name []))) [] [])

def readScheme (scheme : List Char) (base : Option Url) (text : List Char) : Except Fault Url :=
  let base := base.filter (·.scheme = scheme)
  match schemeKind scheme with
  | .file => readFile base text
  | .special =>
    let slashes := text.takeWhile (isSlash .special)
    match base with
    | some b =>
      if slashes.length < 2 then
        match text with
        | c :: rest =>
          if isSlash .special c then .ok (finish scheme b.authority [] rest) else .ok (relativeTo b text)
        | [] => .ok b.withoutFragment
      else readBehindSlashes scheme (text.dropWhile (isSlash .special))
    | none => readBehindSlashes scheme (text.dropWhile (isSlash .special))
  | .other =>
    match text with
    | '/' :: '/' :: rest => readBehindSlashes scheme rest
    | '/' :: rest => .ok (finish scheme none [] rest)
    | _ =>
      let (query, fragment) := readTail .other (text.dropWhile (!endsPath ·))
      .ok {
        scheme, authority := none, guarded := false
        path := .plain (percentEncode .none (text.takeWhile (!endsPath ·)))
        query, fragment }

/-- A text without a scheme, read against a base that is no file. -/
def readRelative (base : Url) (text : List Char) : Except Fault Url :=
  let kind := schemeKind base.scheme
  match text with
  | c :: rest =>
    if isSlash kind c then
      match rest with
      | d :: after =>
        if isSlash kind d then
          readBehindSlashes base.scheme (if kind.isKnown then after.dropWhile (isSlash kind) else after)
        else .ok (finish base.scheme base.authority [] rest)
      | [] => .ok (finish base.scheme base.authority [] rest)
    else .ok (relativeTo base text)
  | [] => .ok (relativeTo base text)

/-- The URL in a text, read against a base if there is one. -/
def parseWith (base : Option Url) (text : String) : Except Fault Url :=
  let text := clean text.toList
  match splitScheme? text, base with
  | some (scheme, rest), _ => readScheme scheme base rest
  | none, none => .error .noBase
  | none, some b =>
    match text with
    | '#' :: _ => .ok (relativeTo b text)
    | _ =>
      if b.hasPlainPath then .error .noBasePath
      else if schemeKind b.scheme = .file then readFile (some b) text
      else readRelative b text

def parse (text : String) : Except Fault Url := parseWith none text

/-- The URL that a reference in a document at `base` leads to. -/
def resolve (base : Url) (reference : String) : Except Fault Url := parseWith (some base) reference

end ChannelFeed.Url
