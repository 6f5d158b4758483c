/-! # What can be wrong with a JSON text

* `Json.Fault` — the causes, with their wording in `Json.Fault.message`;
* `Json.Place` — a line and a column, and the place of the `n`-th byte of a text;
* `Json.Error` — a cause, with the place where reading stopped if one is known. -/

namespace Switchboard.Json

/-- Why a text is no JSON value, or not the value that was asked for. -/
inductive Fault where
  | eofInList
  | eofInObject
  | eofInString
  | eofInValue
  | expectedColon
  | expectedListCommaOrEnd
  | expectedObjectCommaOrEnd
  | expectedIdent
  | expectedValue
  | invalidEscape
  | invalidNumber
  | invalidUnicode
  | numberOutOfRange
  | controlCharacter
  | keyMustBeString
  | loneSurrogate
  | unfinishedSurrogate
  | trailingComma
  | trailingCharacters
  | nestedTooDeep
  /-- The value is of another kind than the one asked for. -/
  | wrongType (found expected : String)
  /-- The value is of the right kind but not among those asked for. -/
  | wrongValue (found expected : String)
  | wrongLength (found : Nat) (expected : String)
  | unknownVariant (found : String) (known : List String)
  | missingField (name : String)
  | duplicateField (name : String)
  /-- A string that another reader refused, in that reader's words. -/
  | refused (message : String)
deriving DecidableEq, Repr

/-- A list of alternatives in words, each between backticks. -/
def alternatives : List String → String
  | [] => "there are no variants"
  | [a] => "expected `" ++ a ++ "`"
  | [a, b] => "expected `" ++ a ++ "` or `" ++ b ++ "`"
  | a :: rest =>
    "expected one of `" ++ a ++ "`" ++ String.join (rest.map fun b => ", `" ++ b ++ "`")

def Fault.message : Fault → String
  | .eofInList => "EOF while parsing a list"
  | .eofInObject => "EOF while parsing an object"
  | .eofInString => "EOF while parsing a string"
  | .eofInValue => "EOF while parsing a value"
  | .expectedColon => "expected `:`"
  | .expectedListCommaOrEnd => "expected `,` or `]`"
  | .expectedObjectCommaOrEnd => "expected `,` or `\x7d`"
  | .expectedIdent => "expected ident"
  | .expectedValue => "expected value"
  | .invalidEscape => "invalid escape"
  | .invalidNumber => "invalid number"
  | .invalidUnicode => "invalid unicode code point"
  | .numberOutOfRange => "number out of range"
  | .controlCharacter => "control character (\\u0000-\\u001F) found while parsing a string"
  | .keyMustBeString => "key must be a string"
  | .loneSurrogate => "lone leading surrogate in hex escape"
  | .unfinishedSurrogate => "unexpected end of hex escape"
  | .trailingComma => "trailing comma"
  | .trailingCharacters => "trailing characters"
  | .nestedTooDeep => "recursion limit exceeded"
  | .wrongType found expected => "invalid type: " ++ found ++ ", expected " ++ expected
  | .wrongValue found expected => "invalid value: " ++ found ++ ", expected " ++ expected
  | .wrongLength found expected =>
    "invalid length " ++ toString found ++ ", expected " ++ expected
  | .unknownVariant found known => "unknown variant `" ++ found ++ "`, " ++ alternatives known
  | .missingField name => "missing field `" ++ name ++ "`"
  | .duplicateField name => "duplicate field `" ++ name ++ "`"
  | .refused message => message

/-! ## Places -/

/-- A place in a text.  Lines count from one; a column is the number of bytes
read since the line began. -/
structure Place where
  line : Nat
  column : Nat
deriving DecidableEq, Repr

/-- The place after one more byte. -/
def Place.next (p : Place) (b : UInt8) : Place :=
  if b = 10 then ⟨p.line + 1, 0⟩ else ⟨p.line, p.column + 1⟩

/-- The place after the first `n` bytes. -/
def Place.after (bytes : List UInt8) (n : Nat) : Place :=
  (bytes.take n).foldl Place.next ⟨1, 0⟩

/-- A fault and, if the text is at hand, where reading stopped. -/
structure Error where
  fault : Fault
  place : Option Place
deriving DecidableEq, Repr

def Error.message (e : Error) : String :=
  match e.place with
  | none => e.fault.message
  | some p =>
    e.fault.message ++ " at line " ++ toString p.line ++ " column " ++ toString p.column

end Switchboard.Json
