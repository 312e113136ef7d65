import SpokenCommand.Numeral.Shortest
import SpokenCommand.Text.Quoted

/-!
# JSON values and faults

`Value` is a JSON value held in memory. `Fault` says why a value or a text could not be read as the
data it was meant to be; `Fault.message` is its wording.
-/

namespace SpokenCommand.Json

/-- A number: an integer between `-2 ^ 63` and `2 ^ 64`, or a 64-bit float for all else. -/
inductive Number where
  | int (value : Int)
  | float (value : Float)

inductive Value where
  | null
  | bool (value : Bool)
  | number (value : Number)
  | string (value : String)
  | array (items : List Value)
  | object (members : List (String × Value))

def Value.nat (n : Nat) : Value := .number (.int n)

def Value.strings (ss : List String) : Value := .array (ss.map .string)

def Value.ofOption {α : Type} (f : α → Value) : Option α → Value
  | none => .null
  | some a => f a

/-! ## What was found -/

/-- The kind of value that stands where another was expected. -/
inductive Found where
  | null
  | bool (value : Bool)
  | number (value : Number)
  | string (value : String)
  | sequence
  | map

/-- How messages name what was found. -/
def Found.describe : Found → String
  | .null => "null"
  | .bool value => "boolean `" ++ (if value then "true" else "false") ++ "`"
  | .number (.int value) => "integer `" ++ toString value ++ "`"
  | .number (.float value) => "floating point `" ++ Numeral.showFloat value ++ "`"
  | .string value => "string " ++ Text.quoted value
  | .sequence => "sequence"
  | .map => "map"

def Value.found : Value → Found
  | .null => .null
  | .bool value => .bool value
  | .number value => .number value
  | .string value => .string value
  | .array _ => .sequence
  | .object _ => .map

/-! ## Faults -/

inductive Malformation where
  | endInValue
  | endInArray
  | endInObject
  | endInString
  | expectedValue
  | expectedIdent
  | expectedColon
  | expectedCommaOrBracket
  | expectedCommaOrBrace
  | trailingComma
  | trailingCharacters
  | keyNotString
  | invalidNumber
  | numberOutOfRange
  | invalidEscape
  | unexpectedEndOfHexEscape
  | loneSurrogate
  | controlCharacter
  | invalidCodePoint
  | tooDeep
deriving DecidableEq, Repr

def Malformation.message : Malformation → String
  | .endInValue => "EOF while parsing a value"
  | .endInArray => "EOF while parsing a list"
  | .endInObject => "EOF while parsing an object"
  | .endInString => "EOF while parsing a string"
  | .expectedValue => "expected value"
  | .expectedIdent => "expected ident"
  | .expectedColon => "expected `:`"
  | .expectedCommaOrBracket => "expected `,` or `]`"
  | .expectedCommaOrBrace => "expected `,` or `\x7d`"
  | .trailingComma => "trailing comma"
  | .trailingCharacters => "trailing characters"
  | .keyNotString => "key must be a string"
  | .invalidNumber => "invalid number"
  | .numberOutOfRange => "number out of range"
  | .invalidEscape => "invalid escape"
  | .unexpectedEndOfHexEscape => "unexpected end of hex escape"
  | .loneSurrogate => "lone leading surrogate in hex escape"
  | .controlCharacter => "control character (\\u0000-\\u001F) found while parsing a string"
  | .invalidCodePoint => "invalid unicode code point"
  | .tooDeep => "recursion limit exceeded"

/-- Why data could not be read: the text is not JSON, or it is not the data expected. -/
inductive Fault where
  | malformed (cause : Malformation)
  | invalidType (found : Found) (expected : String)
  | invalidValue (found : Found) (expected : String)
  | invalidLength (length : Nat) (expected : String)
  | missingField (name : String)
  | duplicateField (name : String)
  | unknownVariant (name : String) (known : List String)

/-- The known names of a choice: two with "or" between them, more after "one of". -/
def listNames (names : List String) : String :=
  let ticked := names.map fun name => "`" ++ name ++ "`"
  if names.length = 2 then " or ".intercalate ticked else "one of " ++ ", ".intercalate ticked

/-- The wording of a fault, without the line and the column where the text went wrong: a `Fault` does not
know them. -/
def Fault.message : Fault → String
  | .malformed cause => cause.message
  | .invalidType found expected => "invalid type: " ++ found.describe ++ ", expected " ++ expected
  | .invalidValue found expected => "invalid value: " ++ found.describe ++ ", expected " ++ expected
  | .invalidLength length expected =>
    "invalid length " ++ toString length ++ ", expected " ++ expected
  | .missingField name => "missing field `" ++ name ++ "`"
  | .duplicateField name => "duplicate field `" ++ name ++ "`"
  | .unknownVariant name known =>
    "unknown variant `" ++ name ++ "`, expected " ++ listNames known

end SpokenCommand.Json
