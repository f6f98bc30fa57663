import Localize.Json.Value

/-! # JSON reading errors

An error is either in the text itself (a syntax error, always with the line and column where
it was seen) or in the shape of a well-formed value (a value of the wrong type, an unknown
variant, a missing or repeated field). A shape error gets the position where reading stood
when it was seen, if it was read from text; read from a value, it has none.

Columns count bytes from the start of the line; the first byte is column 1, so a position
just after a byte has that byte's column.
-/

namespace Localize.Json

/-- What is wrong in the text. -/
inductive SyntaxCode where
  | eofList
  | eofObject
  | eofString
  | eofValue
  | expectedColon
  | expectedListCommaOrEnd
  | expectedObjectCommaOrEnd
  | expectedIdent
  | expectedValue
  | invalidEscape
  | invalidNumber
  | numberOutOfRange
  | controlCharacter
  | keyMustBeString
  | loneLeadingSurrogate
  | trailingComma
  | trailingCharacters
  | unexpectedEndOfHexEscape
  | recursionLimitExceeded
deriving Repr, DecidableEq

/-- The text of a syntax error. -/
def SyntaxCode.text : SyntaxCode → String
  | .eofList => "EOF while parsing a list"
  | .eofObject => "EOF while parsing an object"
  | .eofString => "EOF while parsing a string"
  | .eofValue => "EOF while parsing a value"
  | .expectedColon => "expected \x60:\x60"
  | .expectedListCommaOrEnd => "expected \x60,\x60 or \x60]\x60"
  | .expectedObjectCommaOrEnd => "expected \x60,\x60 or \x60\x7d\x60"
  | .expectedIdent => "expected ident"
  | .expectedValue => "expected value"
  | .invalidEscape => "invalid escape"
  | .invalidNumber => "invalid number"
  | .numberOutOfRange => "number out of range"
  | .controlCharacter => "control character (\\u0000-\\u001F) found while parsing a string"
  | .keyMustBeString => "key must be a string"
  | .loneLeadingSurrogate => "lone leading surrogate in hex escape"
  | .trailingComma => "trailing comma"
  | .trailingCharacters => "trailing characters"
  | .unexpectedEndOfHexEscape => "unexpected end of hex escape"
  | .recursionLimitExceeded => "recursion limit exceeded"

/-- The names of the variants an enumeration accepts, as listed in an error. -/
def oneOf : List String → String
  | [] => "there are no variants"
  | [a] => "\x60" ++ a ++ "\x60"
  | [a, b] => "\x60" ++ a ++ "\x60 or \x60" ++ b ++ "\x60"
  | names => "one of " ++ ", ".intercalate (names.map fun n => "\x60" ++ n ++ "\x60")

/-- What is wrong in a document. -/
inductive Problem where
  | malformed (code : SyntaxCode)
  | invalidType (found : Unexpected) (expected : String)
  | invalidValue (found : Unexpected) (expected : String)
  | invalidLength (length : Nat) (expected : String)
  | unknownVariant (name : String) (expected : List String)
  | missingField (name : String)
  | duplicateField (name : String)
deriving Repr, DecidableEq

/-- The text of a problem. -/
def Problem.text : Problem → String
  | .malformed code => code.text
  | .invalidType found expected => "invalid type: " ++ found.text ++ ", expected " ++ expected
  | .invalidValue found expected => "invalid value: " ++ found.text ++ ", expected " ++ expected
  | .invalidLength n expected => "invalid length " ++ toString n ++ ", expected " ++ expected
  | .unknownVariant name expected =>
    "unknown variant \x60" ++ name ++ "\x60, expected " ++ oneOf expected
  | .missingField name => "missing field \x60" ++ name ++ "\x60"
  | .duplicateField name => "duplicate field \x60" ++ name ++ "\x60"

/-- A place in a text: line from 1, column in bytes. -/
structure Position where
  line : Nat
  column : Nat
deriving Repr, DecidableEq

/-- A reading error, with the place it was seen when there is one. -/
structure JsonError where
  problem : Problem
  position : Option Position := none
deriving Repr, DecidableEq

/-- The error placed at `p`, unless it already has a place. -/
def JsonError.placeAt (e : JsonError) (p : Position) : JsonError :=
  match e.position with
  | some _ => e
  | none => { e with position := some p }

/-- The text of an error: the problem, then its place. -/
def JsonError.message (e : JsonError) : String :=
  match e.position with
  | some p => e.problem.text ++ " at line " ++ toString p.line ++ " column " ++ toString p.column
  | none => e.problem.text

end Localize.Json
