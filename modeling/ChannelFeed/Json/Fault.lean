import ChannelFeed.Json.Basic
import ChannelFeed.Binary64.Decimal
import ChannelFeed.Text.Quoted

/-!
# What can be wrong with a JSON document

A fault is a cause and, when a text was read, the place where it was noticed.
-/

namespace ChannelFeed.Json

/-- A place in a text: lines are counted from one, columns in bytes. -/
structure Position where
  line : Nat
  column : Nat
deriving DecidableEq, Repr

def Position.start : Position := ⟨1, 0⟩

def Position.after (p : Position) (b : UInt8) : Position :=
  if b = 10 then ⟨p.line + 1, 0⟩ else ⟨p.line, p.column + 1⟩

/-- The place some bytes before, on the same line. -/
def Position.back (p : Position) (n : Nat) : Position := { p with column := p.column - n }

/-- What stands where something else was expected. -/
inductive Found where
  | null
  | bool (b : Bool)
  | integer (n : Int)
  | double (x : Binary64)
  | string (s : String)
  | sequence
  | map

/-- What a typed reader expects. -/
inductive Expected where
  | string
  | boolean
  | natural
  | sequence
  | record (name : String)

/-- Why a document is rejected. -/
inductive Cause where
  | endInList
  | endInObject
  | endInString
  | endInValue
  | noColon
  | noListCommaOrEnd
  | noObjectCommaOrEnd
  | noWord
  | noValue
  | badEscape
  | badNumber
  | numberOutOfRange
  | badCodePoint
  | controlCharacter
  | keyNotString
  | loneSurrogate
  | trailingComma
  | trailingCharacters
  | hexEscapeCutOff
  | tooDeep
  | wrongType (found : Found) (expected : Expected)
  | wrongValue (found : Found) (expected : Expected)
  | missingField (name : String)
  | duplicateField (name : String)

def Found.text : Found → String
  | .null => "null"
  | .bool b => "boolean `" ++ (if b then "true" else "false") ++ "`"
  | .integer n => "integer `" ++ toString n ++ "`"
  | .double x => "floating point `" ++ String.ofList x.text ++ "`"
  | .string s => "string " ++ Text.quoted s
  | .sequence => "sequence"
  | .map => "map"

def Expected.text : Expected → String
  | .string => "a string"
  | .boolean => "a boolean"
  | .natural => "u64"
  | .sequence => "a sequence"
  | .record name => "struct " ++ name

def Cause.text : Cause → String
  | .endInList => "EOF while parsing a list"
  | .endInObject => "EOF while parsing an object"
  | .endInString => "EOF while parsing a string"
  | .endInValue => "EOF while parsing a value"
  | .noColon => "expected `:`"
  | .noListCommaOrEnd => "expected `,` or `]`"
  | .noObjectCommaOrEnd => "expected `,` or `\x7d`"
  | .noWord => "expected ident"
  | .noValue => "expected value"
  | .badEscape => "invalid escape"
  | .badNumber => "invalid number"
  | .numberOutOfRange => "number out of range"
  | .badCodePoint => "invalid unicode code point"
  | .controlCharacter => "control character (\\u0000-\\u001F) found while parsing a string"
  | .keyNotString => "key must be a string"
  | .loneSurrogate => "lone leading surrogate in hex escape"
  | .trailingComma => "trailing comma"
  | .trailingCharacters => "trailing characters"
  | .hexEscapeCutOff => "unexpected end of hex escape"
  | .tooDeep => "recursion limit exceeded"
  | .wrongType found expected => "invalid type: " ++ found.text ++ ", expected " ++ expected.text
  | .wrongValue found expected => "invalid value: " ++ found.text ++ ", expected " ++ expected.text
  | .missingField name => "missing field `" ++ name ++ "`"
  | .duplicateField name => "duplicate field `" ++ name ++ "`"

/-- A rejected document: the cause, and the place in the text if one was read. -/
structure Fault where
  cause : Cause
  place : Option Position

def Fault.message (f : Fault) : String :=
  match f.place with
  | none => f.cause.text
  | some p => f.cause.text ++ " at line " ++ toString p.line ++ " column " ++ toString p.column

def Fault.parts (f : Fault) : String :=
  let place := f.place.getD ⟨0, 0⟩
  "Error(" ++ Text.quoted f.cause.text ++ ", line: " ++ toString place.line ++ ", column: " ++
    toString place.column ++ ")"

end ChannelFeed.Json
