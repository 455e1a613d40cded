import Intercept.Json.Value
import Intercept.Text.Quoted

/-!
What can be wrong with a document or with a record in it.
-/

namespace Intercept.Json

/-- What a place in a record asks for. -/
inductive Wanted where
  | i64
  | u64
  | u32
  | boolean
  | string
  | map
  | list
  | record (name : String)
deriving DecidableEq, Repr

def Wanted.text : Wanted → String
  | .i64 => "i64"
  | .u64 => "u64"
  | .u32 => "u32"
  | .boolean => "a boolean"
  | .string => "a string"
  | .map => "a map"
  | .list => "a sequence"
  | .record name => s!"struct {name}"

def Head.text : Head → String
  | .null => "null"
  | .bool b => s!"boolean `{b}`"
  | .int n => s!"integer `{n}`"
  | .float x => s!"floating point `{String.ofList x.chars}`"
  | .str s => s!"string {Text.quoted s}"
  | .list => "sequence"
  | .object => "map"

inductive Flaw where
  | endOfList
  | endOfObject
  | endOfString
  | endOfValue
  | endOfHexEscape
  | noColon
  | noListEnd
  | noObjectEnd
  | noLiteral
  | noValue
  | keyNotString
  | badEscape
  | badNumber
  | numberOutOfRange
  | controlCharacter
  | loneSurrogate
  | trailingComma
  | trailingCharacters
  | tooDeep
  | missingField (name : String)
  | duplicateField (name : String)
  | wrongType (found : Head) (wanted : Wanted)
  | wrongValue (found : Head) (wanted : Wanted)
  | tooFewItems (found : Nat) (name : String) (fields : Nat)
  | tooManyItems (found : Nat)
  | refused (why : String)

def Flaw.message : Flaw → String
  | .endOfList => "EOF while parsing a list"
  | .endOfObject => "EOF while parsing an object"
  | .endOfString => "EOF while parsing a string"
  | .endOfValue => "EOF while parsing a value"
  | .endOfHexEscape => "unexpected end of hex escape"
  | .noColon => "expected `:`"
  | .noListEnd => "expected `,` or `]`"
  | .noObjectEnd => "expected `,` or `\x7d`"
  | .noLiteral => "expected ident"
  | .noValue => "expected value"
  | .keyNotString => "key must be a string"
  | .badEscape => "invalid escape"
  | .badNumber => "invalid number"
  | .numberOutOfRange => "number out of range"
  | .controlCharacter => "control character (\\u0000-\\u001F) found while parsing a string"
  | .loneSurrogate => "lone leading surrogate in hex escape"
  | .trailingComma => "trailing comma"
  | .trailingCharacters => "trailing characters"
  | .tooDeep => "recursion limit exceeded"
  | .missingField name => s!"missing field `{name}`"
  | .duplicateField name => s!"duplicate field `{name}`"
  | .wrongType found wanted => s!"invalid type: {found.text}, expected {wanted.text}"
  | .wrongValue found wanted => s!"invalid value: {found.text}, expected {wanted.text}"
  | .tooFewItems found name fields =>
    s!"invalid length {found}, expected struct {name} with {fields} elements"
  | .tooManyItems found => s!"invalid length {found}, expected fewer elements in array"
  | .refused why => why

end Intercept.Json
