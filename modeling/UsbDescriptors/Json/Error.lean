import UsbDescriptors.Json.Value
import UsbDescriptors.Text.Writing

/-!
# Faults of JSON texts

A text can fail to be JSON, or it can be JSON of the wrong shape for the data that is read from
it. Either way the first fault in reading order is the one that is reported.
-/

namespace UsbDescriptors.Json

/-- Why a text is not JSON. -/
inductive SyntaxError where
  | endInValue
  | endInList
  | endInObject
  | endInString
  | expectedValue
  | expectedIdent
  | invalidNumber
  | numberOutOfRange
  | keyNotString
  | expectedColon
  | expectedCommaOrBracket
  | expectedCommaOrBrace
  | trailingComma
  | trailingCharacters
  | invalidEscape
  | controlCharacter
  | endOfHexEscape
  | loneSurrogate
  | tooDeep
deriving DecidableEq, Repr

def SyntaxError.message : SyntaxError → String
  | .endInValue => "EOF while parsing a value"
  | .endInList => "EOF while parsing a list"
  | .endInObject => "EOF while parsing an object"
  | .endInString => "EOF while parsing a string"
  | .expectedValue => "expected value"
  | .expectedIdent => "expected ident"
  | .invalidNumber => "invalid number"
  | .numberOutOfRange => "number out of range"
  | .keyNotString => "key must be a string"
  | .expectedColon => "expected \x60:\x60"
  | .expectedCommaOrBracket => "expected \x60,\x60 or \x60]\x60"
  | .expectedCommaOrBrace => "expected \x60,\x60 or \x60\x7d\x60"
  | .trailingComma => "trailing comma"
  | .trailingCharacters => "trailing characters"
  | .invalidEscape => "invalid escape"
  | .controlCharacter => "control character (\\u0000-\\u001F) found while parsing a string"
  | .endOfHexEscape => "unexpected end of hex escape"
  | .loneSurrogate => "lone leading surrogate in hex escape"
  | .tooDeep => "recursion limit exceeded"

/-- What stands in a text where something else is expected. -/
inductive Found where
  | null
  | boolean (value : Bool)
  | number (value : Number)
  | string (text : String)
  | sequence
  | map
deriving DecidableEq, Repr

/-- A word set off by grave accents. -/
def marked (word : String) : String :=
  "\x60" ++ word ++ "\x60"

def Found.describe : Found → String
  | .null => "null"
  | .boolean value => "boolean " ++ marked (toString value)
  | .number (.integer value) => "integer " ++ marked (toString value)
  | .number (.double value) => "floating point " ++ marked (String.ofList value.write)
  | .string text => "string " ++ quoted text
  | .sequence => "sequence"
  | .map => "map"

/-- Why JSON does not have the shape of the data that is read from it. -/
inductive ShapeError where
  | missingField (name : String)
  | unknownField (name : String) (known : List String)
  | duplicateField (name : String)
  | invalidType (found : Found) (expected : String)
  | invalidInteger (value : Int) (expected : String)
  | invalidLength (length : Nat) (expected : String)
  | unknownVariant (name : String) (known : List String)
  | noVariant (type : String)
deriving DecidableEq, Repr

/-- The names that may stand somewhere, as a choice. -/
def choice : List String → String
  | [only] => marked only
  | [first, second] => marked first ++ " or " ++ marked second
  | names => "one of " ++ ", ".intercalate (names.map marked)

def ShapeError.message : ShapeError → String
  | .missingField name => "missing field " ++ marked name
  | .unknownField name known => "unknown field " ++ marked name ++ ", expected " ++ choice known
  | .duplicateField name => "duplicate field " ++ marked name
  | .invalidType found expected => "invalid type: " ++ found.describe ++ ", expected " ++ expected
  | .invalidInteger value expected =>
      "invalid value: integer " ++ marked (toString value) ++ ", expected " ++ expected
  | .invalidLength length expected =>
      "invalid length " ++ toString length ++ ", expected " ++ expected
  | .unknownVariant name known => "unknown variant " ++ marked name ++ ", expected " ++ choice known
  | .noVariant type => "data did not match any variant of untagged enum " ++ type

/-- Why data cannot be read from a text. -/
inductive ReadError where
  | badSyntax (error : SyntaxError)
  | badShape (error : ShapeError)
deriving DecidableEq, Repr

def ReadError.message : ReadError → String
  | .badSyntax error => error.message
  | .badShape error => error.message

end UsbDescriptors.Json
