/-!
# Faults in JSON text

What can be wrong with a text that should be JSON, whatever it is meant to say.
-/

namespace WalletConsole.Json

/-- Why a text is not JSON. -/
inductive Fault where
  /-- the text ends where a value is needed -/
  | endOfValue
  /-- the text ends inside a list -/
  | endOfList
  /-- the text ends inside an object -/
  | endOfObject
  /-- the text ends inside a string -/
  | endOfText
  /-- no colon follows a key -/
  | expectedColon
  /-- neither a comma nor the end follows an item of a list -/
  | expectedCommaOrBracket
  /-- neither a comma nor the end follows a member of an object -/
  | expectedCommaOrBrace
  /-- a word other than `null`, `true` and `false` -/
  | expectedWord
  /-- no value can start like this -/
  | expectedValue
  /-- a backslash with something that it does not escape -/
  | invalidEscape
  /-- a number that is not written as one -/
  | invalidNumber
  /-- a number too great for any float -/
  | numberOutOfRange
  /-- a string with bytes that belong to no character -/
  | invalidCharacter
  /-- a string with a control character that is not escaped -/
  | controlCharacter
  /-- an object with a key that is not a string -/
  | keyMustBeText
  /-- half of a surrogate pair -/
  | loneSurrogate
  /-- a high surrogate that no further escape follows -/
  | unfinishedPair
  /-- a comma after the last item or member -/
  | trailingComma
  /-- something after the end -/
  | trailingCharacters
  /-- lists and objects nested too deep -/
  | tooDeep
  deriving DecidableEq, Repr

/-- The wording of a fault. -/
def Fault.message : Fault → String
  | .endOfValue => "EOF while parsing a value"
  | .endOfList => "EOF while parsing a list"
  | .endOfObject => "EOF while parsing an object"
  | .endOfText => "EOF while parsing a string"
  | .expectedColon => "expected `:`"
  | .expectedCommaOrBracket => "expected `,` or `]`"
  | .expectedCommaOrBrace => "expected `,` or `\x7d`"
  | .expectedWord => "expected ident"
  | .expectedValue => "expected value"
  | .invalidEscape => "invalid escape"
  | .invalidNumber => "invalid number"
  | .numberOutOfRange => "number out of range"
  | .invalidCharacter => "invalid unicode code point"
  | .controlCharacter => "control character (\\u0000-\\u001F) found while parsing a string"
  | .keyMustBeText => "key must be a string"
  | .loneSurrogate => "lone leading surrogate in hex escape"
  | .unfinishedPair => "unexpected end of hex escape"
  | .trailingComma => "trailing comma"
  | .trailingCharacters => "trailing characters"
  | .tooDeep => "recursion limit exceeded"

end WalletConsole.Json
