import Localize.Json.Value

/-! # Writing JSON text

Values are written compactly, without spaces. Strings escape quotes, backslashes and control
characters: the common ones by letter (`\n`, `\t`, ...), the others as `\u00XX`.
-/

namespace Localize.Json

/-- A character as written inside a JSON string. -/
def escapedChar (c : Char) : String :=
  match c with
  | '"' => "\\\""
  | '\\' => "\\\\"
  | '\n' => "\\n"
  | '\r' => "\\r"
  | '\t' => "\\t"
  | '\x08' => "\\b"
  | '\x0c' => "\\f"
  | c =>
    if c.val < 0x20 then
      let hex := hexDigits c.val.toNat
      "\\u" ++ String.ofList (List.replicate (4 - hex.length) '0') ++ hex
    else c.toString

/-- A string as JSON text. -/
def stringText (s : String) : String := "\"" ++ String.join (s.toList.map escapedChar) ++ "\""

/-- A number as JSON text. -/
def Number.text : Number → String
  | .nat n => toString n
  | .neg n => toString n
  | .float v => v.text

mutual

/-- A value as compact JSON text. -/
def Value.render : Value → String
  | .null => "null"
  | .bool b => toString b
  | .number n => n.text
  | .string s => stringText s
  | .array items => "[" ++ itemsText items ++ "]"
  | .object members => "\x7b" ++ membersText members ++ "\x7d"

/-- Array items as JSON text, separated by commas. -/
def itemsText : List Value → String
  | [] => ""
  | [v] => v.render
  | v :: vs => v.render ++ "," ++ itemsText vs

/-- Object members as JSON text, separated by commas. -/
def membersText : List (String × Value) → String
  | [] => ""
  | [(k, v)] => stringText k ++ ":" ++ v.render
  | (k, v) :: rest => stringText k ++ ":" ++ v.render ++ "," ++ membersText rest

end

end Localize.Json
