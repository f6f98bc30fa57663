import Localize.Numeric.Shortest
import Localize.Text.Escaped

/-! # JSON values

A JSON document is a value: `null`, a boolean, a number, a string, an array or an object.
Objects keep their members in order; a value built from an already-read document has its
members sorted by key, each key once.

When a value has the wrong shape for what is read from it, the error names what was found:
`null`, `boolean true`, ``integer 5``, ``floating point 1.5``, `string "text"`, `sequence`
or `map`. Strings are shown quoted, with quotes, backslashes and control characters
escaped; floating point numbers in their shortest form.
-/

namespace Localize.Json

/-- A JSON number as read: a non-negative integer, a negative integer, or a binary64
floating point number. -/
inductive Number where
  | nat (n : Nat)
  | neg (n : Int)
  | float (value : Binary64)
deriving Repr, DecidableEq

/-- A JSON value. -/
inductive Value where
  | null
  | bool (b : Bool)
  | number (n : Number)
  | string (s : String)
  | array (items : List Value)
  | object (members : List (String × Value))
deriving Repr, Inhabited

/-- What was found where something else was expected. -/
inductive Unexpected where
  | bool (b : Bool)
  | number (n : Number)
  | str (s : String)
  | null
  | seq
  | map
deriving Repr, DecidableEq

/-- The lowercase hexadecimal digits of `n`, without leading zeros. -/
def hexDigits (n : Nat) : String := String.ofList (Nat.toDigits 16 n)

/-- A character as shown inside a quoted string. -/
def shownChar (c : Char) : String := Text.escapedBetween '"' c

/-- A string shown quoted. -/
def quoted (s : String) : String :=
  "\"" ++ String.join (s.toList.map shownChar) ++ "\""

/-- How an unexpected value is named in an error. -/
def Unexpected.text : Unexpected → String
  | .bool b => "boolean \x60" ++ toString b ++ "\x60"
  | .number (.nat n) => "integer \x60" ++ toString n ++ "\x60"
  | .number (.neg n) => "integer \x60" ++ toString n ++ "\x60"
  | .number (.float v) => "floating point \x60" ++ v.text ++ "\x60"
  | .str s => "string " ++ quoted s
  | .null => "null"
  | .seq => "sequence"
  | .map => "map"

/-- What a value is, as named in an error. -/
def Value.unexpected : Value → Unexpected
  | .null => .null
  | .bool b => .bool b
  | .number n => .number n
  | .string s => .str s
  | .array _ => .seq
  | .object _ => .map

end Localize.Json
