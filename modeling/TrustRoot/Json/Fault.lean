import TrustRoot.Bytes

/-!
# Faults in JSON texts

A fault has a cause and a place. While reading, the place is the number of octets that are left
after it; for a report it becomes a line and a column, where the column counts octets since the
last line feed.
-/

namespace TrustRoot.Json

inductive Cause where
  | expectedValue
  | expectedLiteral
  | expectedName
  | expectedColon
  | expectedCommaInArray
  | expectedCommaInObject
  | trailingComma
  | trailingCharacters
  | endInValue
  | endInArray
  | endInObject
  | endInString
  | tooDeep
  | invalidNumber
  | numberOutOfRange
  | controlCharacter
  | invalidEscape
  | loneSurrogate
  | endOfSurrogate
  | invalidCodePoint
  deriving DecidableEq, Repr

def Cause.message : Cause → String
  | .expectedValue => "expected value"
  | .expectedLiteral => "expected ident"
  | .expectedName => "key must be a string"
  | .expectedColon => "expected `:`"
  | .expectedCommaInArray => "expected `,` or `]`"
  | .expectedCommaInObject => "expected `,` or `\x7d`"
  | .trailingComma => "trailing comma"
  | .trailingCharacters => "trailing characters"
  | .endInValue => "EOF while parsing a value"
  | .endInArray => "EOF while parsing a list"
  | .endInObject => "EOF while parsing an object"
  | .endInString => "EOF while parsing a string"
  | .tooDeep => "recursion limit exceeded"
  | .invalidNumber => "invalid number"
  | .numberOutOfRange => "number out of range"
  | .controlCharacter => "control character (\\u0000-\\u001F) found while parsing a string"
  | .invalidEscape => "invalid escape"
  | .loneSurrogate => "lone leading surrogate in hex escape"
  | .endOfSurrogate => "unexpected end of hex escape"
  | .invalidCodePoint => "invalid unicode code point"

/-- A cause and the number of octets left after the place of the fault. -/
structure Fault where
  cause : Cause
  remaining : Nat
  deriving DecidableEq, Repr

/-- A fault just after the octets read so far. -/
def Fault.after (cause : Cause) (rest : Bytes) : Fault := ⟨cause, rest.length⟩

/-- A fault at the next octet, or at the end when there is none. -/
def Fault.next (cause : Cause) (rest : Bytes) : Fault := ⟨cause, rest.length - 1⟩

structure Report where
  cause : Cause
  /-- The line, counted from 1. -/
  line : Nat
  column : Nat
  deriving DecidableEq, Repr

def lineFeed : UInt8 := 0x0A

def Fault.report (fault : Fault) (text : Bytes) : Report :=
  let before := text.take (text.length - fault.remaining)
  { cause := fault.cause
    line := before.count lineFeed + 1
    column := (before.reverse.takeWhile (· != lineFeed)).length }

def Report.message (report : Report) : String :=
  s!"{report.cause.message} at line {report.line} column {report.column}"

end TrustRoot.Json
