/-!
# Arguments

What the program is asked for on its command line. Arguments are read from left to right; the first request
for help or wrong use that is met decides. An option and its value are two arguments, or one with an equals
sign between them.
-/

namespace ChannelFeed.CommandLine

/-- The options that have a value. -/
inductive ValueOption where
  | apiUrl
  | config
  | name
  | userId
deriving DecidableEq, Repr

/-- The options that have none. -/
inductive Switch where
  | json
  | debug
  | help
deriving DecidableEq, Repr

structure Arguments where
  apiUrl : Option String
  config : Option String
  name : Option String
  userId : Option String
  json : Bool
  debug : Bool
deriving DecidableEq, Repr

/-- What a command line asks for. -/
inductive Request where
  | help
  | wrongUse
  | list (arguments : Arguments)
deriving DecidableEq, Repr

def valueOption? (name : String) : Option ValueOption :=
  [("api-url", ValueOption.apiUrl), ("config", .config), ("name", .name), ("user-id", .userId)].lookup name

def switch? (name : String) : Option Switch :=
  [("json", Switch.json), ("debug", .debug), ("help", .help)].lookup name

def letter? (c : Char) : Option Switch := [('d', Switch.debug), ('h', .help)].lookup c

namespace Arguments

def none : Arguments := ⟨.none, .none, .none, .none, false, false⟩

def once (known : Option String) (value : String) : Option (Option String) :=
  if known.isSome then .none else some (some value)

/-- The arguments with one more value. The name of a file cannot be empty. -/
def withValue? (a : Arguments) (option : ValueOption) (value : String) : Option Arguments :=
  match option with
  | .apiUrl => (once a.apiUrl value).map fun v => { a with apiUrl := v }
  | .config => if value = "" then .none else (once a.config value).map fun v => { a with config := v }
  | .name => (once a.name value).map fun v => { a with name := v }
  | .userId => (once a.userId value).map fun v => { a with userId := v }

/-- The arguments with one more switch, which is given once at most, or the request they come to. -/
def withSwitch (a : Arguments) : Switch → Except Request Arguments
  | .help => .error .help
  | .json => if a.json then .error .wrongUse else .ok { a with json := true }
  | .debug => if a.debug then .error .wrongUse else .ok { a with debug := true }

def withLetters (a : Arguments) : List Char → Except Request Arguments
  | [] => .ok a
  | c :: rest =>
    match letter? c with
    | .none => .error .wrongUse
    | some switch => do (← a.withSwitch switch).withLetters rest

end Arguments

/-- Whether an argument is read as an option, so that it cannot be the value of one. -/
def looksLikeOption : List Char → Bool
  | '-' :: _ :: _ => true
  | _ => false

/-- The name and the value of a long option, from behind its dashes. -/
def splitValue (text : List Char) : String × Option String :=
  let value := match text.dropWhile (· ≠ '=') with
    | [] => none
    | _ :: value => some (String.ofList value)
  (String.ofList (text.takeWhile (· ≠ '=')), value)

/-- What is asked for when all arguments have been read. A channel is picked in one way only. -/
def Arguments.request (a : Arguments) : Request :=
  if a.name.isSome && a.userId.isSome then .wrongUse else .list a

/-- Reads the arguments that are left. Behind two lone dashes there may be nothing. -/
def readFrom (a : Arguments) : List String → Request
  | [] => a.request
  | text :: rest =>
    match text.toList with
    | ['-', '-'] => if rest.isEmpty then a.request else .wrongUse
    | '-' :: '-' :: long =>
      match splitValue long with
      | (name, some value) =>
        match (valueOption? name).bind (a.withValue? · value) with
        | some a => readFrom a rest
        | none => .wrongUse
      | (name, none) =>
        match switch? name with
        | some switch =>
          match a.withSwitch switch with
          | .ok a => readFrom a rest
          | .error request => request
        | none =>
          match rest with
          | [] => .wrongUse
          | value :: rest =>
            if looksLikeOption value.toList then .wrongUse
            else
              match (valueOption? name).bind (a.withValue? · value) with
              | some a => readFrom a rest
              | none => .wrongUse
    | '-' :: letter :: letters =>
      match a.withLetters (letter :: letters) with
      | .ok a => readFrom a rest
      | .error request => request
    | _ => .wrongUse

def Request.ofArguments (arguments : List String) : Request := readFrom .none arguments

def helpText : String :=
"List the channels known to a logs API

Usage: channel-list [OPTIONS]

Options:
      --api-url <API_URL>  API base URL, overrides the settings file
      --config <CONFIG>    Settings file (default: ~/.config/channel_list.json)
      --json               Print the raw JSON envelope
      --name <NAME>        Only show the channel with this name
      --user-id <USER_ID>  Only show the channel with this user id
  -d, --debug              Enable debug logging
  -h, --help               Print help
"

end ChannelFeed.CommandLine
