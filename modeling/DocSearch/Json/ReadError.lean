import DocSearch.Text.Utf8

/-!
# What can be wrong with a JSON text

A fault is a cause together with the bytes that were left when it was found. Where that is, as a
line and a column, is worked out in one place from the bytes already read: lines count from one,
and the column is the number of bytes read on the last line.
-/
namespace DocSearch.Json

/-- The ways in which a JSON text can be broken. -/
inductive ReadError.Cause where
  | endInValue
  | endInList
  | endInObject
  | endInString
  | expectedValue
  | expectedWord
  | expectedColon
  | expectedListCommaOrEnd
  | expectedObjectCommaOrEnd
  | keyNotString
  | trailingComma
  | trailingCharacters
  | invalidNumber
  | numberOutOfRange
  | invalidEscape
  | loneSurrogate
  | endOfHexEscape
  | illFormedText
  | controlCharacter
  | nestedTooDeep
  deriving DecidableEq, Repr

/-- A cause, and where it was found: lines from one, bytes of the line read so far. -/
structure ReadError where
  cause : ReadError.Cause
  line : Nat
  column : Nat
  deriving DecidableEq, Repr

namespace ReadError

def Cause.message : Cause → String
  | .endInValue => "EOF while parsing a value"
  | .endInList => "EOF while parsing a list"
  | .endInObject => "EOF while parsing an object"
  | .endInString => "EOF while parsing a string"
  | .expectedValue => "expected value"
  | .expectedWord => "expected ident"
  | .expectedColon => "expected `:`"
  | .expectedListCommaOrEnd => "expected `,` or `]`"
  | .expectedObjectCommaOrEnd => "expected `,` or `\x7d`"
  | .keyNotString => "key must be a string"
  | .trailingComma => "trailing comma"
  | .trailingCharacters => "trailing characters"
  | .invalidNumber => "invalid number"
  | .numberOutOfRange => "number out of range"
  | .invalidEscape => "invalid escape"
  | .loneSurrogate => "lone leading surrogate in hex escape"
  | .endOfHexEscape => "unexpected end of hex escape"
  | .illFormedText => "invalid unicode code point"
  | .controlCharacter => "control character (\\u0000-\\u001F) found while parsing a string"
  | .nestedTooDeep => "recursion limit exceeded"

def message (e : ReadError) : String :=
  e.cause.message ++ " at line " ++ toString e.line ++ " column " ++ toString e.column

end ReadError

/-- A cause and the bytes that were left after the offending one. -/
structure Fault where
  cause : ReadError.Cause
  left : Bytes
  deriving DecidableEq, Repr

namespace Fault

/-- The error a fault in `text` is reported as. -/
def locate (text : Bytes) (f : Fault) : ReadError :=
  let seen := text.take (text.length - f.left.length)
  let lastLine := seen.reverse.takeWhile (· != 0x0A)
  ⟨f.cause, seen.count 0x0A + 1, lastLine.length⟩

end Fault
end DocSearch.Json
