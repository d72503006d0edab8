import ChannelFeed.Channel.Basic
import ChannelFeed.Json.Typed

/-!
# Decoding channels

Channels are decoded from a text while it is read, or from a value that was read before. The text
decoder rejects a field that is given twice; in a value each key stands once.
-/

namespace ChannelFeed

open Json Json.Reader

/-- What is known of a record while its members are read. -/
structure Channel.Partial where
  userId : Option String
  name : Option String
  extra : Members

/-- The record, once all members are known. -/
def Channel.Partial.finish (p : Channel.Partial) : Except Cause Channel :=
  match p.userId, p.name with
  | none, _ => .error (.missingField "userID")
  | some _, none => .error (.missingField "name")
  | some userId, some name => .ok ⟨userId, name, p.extra⟩

def Channel.member (room : Nat) (key : String) (p : Channel.Partial) : Reader Channel.Partial :=
  if key = "userID" then
    return { p with userId := ← field key p.userId string }
  else if key = "name" then
    return { p with name := ← field key p.name string }
  else do
    colon
    return { p with extra := insert key (← value room) p.extra }

/-- The record of a channel. It is never written as an array. -/
def Channel.record : Record Channel.Partial Channel where
  name := "Channel"
  start := ⟨none, none, []⟩
  member := Channel.member
  finish := Channel.Partial.finish
  fromArray := none

def Channel.reader (room : Nat) : Reader Channel := Reader.record Channel.record room

def Channel.read (bytes : List UInt8) : Except Fault Channel :=
  whole? (Channel.reader maxDepth) bytes

namespace ChannelList

def channelsReader (room : Nat) : Reader (List Channel) := list room Channel.reader

def member (room : Nat) (key : String) (known : Option (List Channel)) :
    Reader (Option (List Channel)) :=
  if key = "channels" then field key known (channelsReader room)
  else do
    passMember
    return known

/-- The envelope of a channel list. A list that is not given is empty. -/
def record : Record (Option (List Channel)) (List Channel) where
  name := "ChannelsList"
  start := none
  member := member
  finish known := .ok (known.getD [])
  fromArray := some fun room => nextField true (channelsReader room) []

/-- A channel list from the text of its envelope. -/
def read (bytes : List UInt8) : Except Fault (List Channel) :=
  whole? (Reader.record record maxDepth) bytes

end ChannelList

/-- What a value is, where another kind was expected. -/
def Json.found : Json → Found
  | .null => .null
  | .bool b => .bool b
  | .integer n => .integer n.value
  | .double x => .double x
  | .string s => .string s
  | .array _ => .sequence
  | .object _ => .map

def Json.asString : Json → Except Cause String
  | .string s => .ok s
  | v => .error (.wrongType v.found .string)

/-- A channel from a value. The fields are looked at in the order of their keys. -/
def Channel.ofJson : Json → Except Cause Channel
  | .object members => do
    let name ← (lookup "name" members).mapM Json.asString
    let userId ← (lookup "userID" members).mapM Json.asString
    Channel.Partial.finish
      ⟨userId, name, members.filter fun (k, _) => k ≠ "userID" ∧ k ≠ "name"⟩
  | v => .error (.wrongType v.found (.record "Channel"))

/-- A list of channels from a value. The first record that is no channel decides the fault. -/
def ChannelList.ofJson : Json → Except Cause (List Channel)
  | .array items => items.mapM Channel.ofJson
  | v => .error (.wrongType v.found .sequence)

def ChannelList.ofMembers (members : Members) : Except Cause (List Channel) :=
  match lookup "channels" members with
  | none => .ok []
  | some v => ChannelList.ofJson v

end ChannelFeed
