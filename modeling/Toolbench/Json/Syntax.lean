import Toolbench.Text.Utf8

/-!
# Faults of JSON text

Where and why a text is not JSON.  A place is a line and a column, both counted
in bytes, and the column is that of the last byte that was looked at.
-/

namespace Toolbench

namespace Json

inductive Cause where
  | endInList
  | endInObject
  | endInString
  | endInValue
  | expectedColon
  | expectedListEnd
  | expectedObjectEnd
  | expectedIdent
  | expectedValue
  | invalidEscape
  | invalidNumber
  | numberOutOfRange
  | controlCharacter
  | keyNotString
  | loneSurrogate
  | trailingComma
  | trailingCharacters
  | endOfHexEscape
  | tooDeep
deriving DecidableEq

def Cause.message : Cause → String
  | endInList => "EOF while parsing a list"
  | endInObject => "EOF while parsing an object"
  | endInString => "EOF while parsing a string"
  | endInValue => "EOF while parsing a value"
  | expectedColon => "expected `:`"
  | expectedListEnd => "expected `,` or `]`"
  | expectedObjectEnd => "expected `,` or `\x7d`"
  | expectedIdent => "expected ident"
  | expectedValue => "expected value"
  | invalidEscape => "invalid escape"
  | invalidNumber => "invalid number"
  | numberOutOfRange => "number out of range"
  | controlCharacter => "control character (\\u0000-\\u001F) found while parsing a string"
  | keyNotString => "key must be a string"
  | loneSurrogate => "lone leading surrogate in hex escape"
  | trailingComma => "trailing comma"
  | trailingCharacters => "trailing characters"
  | endOfHexEscape => "unexpected end of hex escape"
  | tooDeep => "recursion limit exceeded"

/-- A cause, the text from the fault on, and how many bytes of that were looked at. -/
structure Fault where
  cause : Cause
  rest : List Char
  seen : Nat
deriving DecidableEq

def Fault.before (cause : Cause) (rest : List Char) : Fault :=
  ⟨cause, rest, 0⟩

/-- A fault in the next byte, if there is one. -/
def Fault.at_ (cause : Cause) (rest : List Char) : Fault :=
  ⟨cause, rest, if rest.isEmpty then 0 else 1⟩

structure Position where
  line : Nat
  column : Nat
deriving DecidableEq

def Position.behind (bytes : Text.Bytes) : Position :=
  ⟨1 + bytes.count 10, (bytes.reverse.takeWhile (· != 10)).length⟩

def Fault.position (fault : Fault) (whole : List Char) : Position :=
  let bytes := Text.Utf8.encodeChars whole
  Position.behind (bytes.take (bytes.length - Text.Utf8.size fault.rest + fault.seen))

structure SyntaxError where
  cause : Cause
  position : Position
deriving DecidableEq

def SyntaxError.message (error : SyntaxError) : String :=
  error.cause.message ++ " at line " ++ toString error.position.line ++ " column " ++
    toString error.position.column

end Json

end Toolbench
