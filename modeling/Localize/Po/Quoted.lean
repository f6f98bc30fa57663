import Localize.Text.Blank

/-! # Quoted strings in catalogs

A catalog writes each string between double quotes. Writing escapes backslash, double quote,
newline, tab and carriage return. Reading also knows the escapes for bell, backspace, form feed
and vertical tab, and takes any other escaped character as itself. The main statement,
`decode_encode`, says that reading gives back what was written.
-/

namespace Localize.Po

open Localize.Text

/-- The escaped form of a string's characters. -/
def encode : List Char → List Char
  | [] => []
  | c :: cs =>
    let rest := encode cs
    match c with
    | '\\' => '\\' :: '\\' :: rest
    | '"' => '\\' :: '"' :: rest
    | '\n' => '\\' :: 'n' :: rest
    | '\t' => '\\' :: 't' :: rest
    | '\r' => '\\' :: 'r' :: rest
    | c => c :: rest

/-- The escaped form of a string, as written between quotes. -/
def escape (s : String) : String := String.ofList (encode s.toList)

/-- The character an escape stands for, given the character after the backslash. -/
def unescapeChar : Char → Char
  | 'n' => '\n'
  | 't' => '\t'
  | 'r' => '\r'
  | 'a' => '\x07'
  | 'b' => '\x08'
  | 'f' => '\x0c'
  | 'v' => '\x0b'
  | c => c

/-- The characters that escaped text stands for; `none` when a backslash ends the text. -/
def decode : List Char → Option (List Char)
  | [] => some []
  | ['\\'] => none
  | '\\' :: c :: cs => (decode cs).map (unescapeChar c :: ·)
  | c :: cs => (decode cs).map (c :: ·)

theorem decode_encode (cs : List Char) : decode (encode cs) = some cs := by
  induction cs with
  | nil => rfl
  | cons c cs ih =>
    unfold encode
    split <;> simp_all [decode, unescapeChar]

/-- Why a quoted string cannot be read. -/
inductive QuoteError
  /-- The text is not enclosed in double quotes; carries the trimmed text. -/
  | expectedQuoted (found : String)
  /-- A backslash ends the string. -/
  | danglingEscape
deriving Repr, DecidableEq

/-- Reads a quoted string: the trimmed text must start and end with a double quote, and the
part between them is unescaped. Quotes inside are taken as they stand. -/
def unquote (text : List Char) : Except QuoteError String :=
  let trimmed := trimBlank text
  match trimmed with
  | '"' :: inner@(_ :: _) =>
    match inner.getLast? with
    | some '"' =>
      match decode inner.dropLast with
      | some value => .ok (String.ofList value)
      | none => .error .danglingEscape
    | _ => .error (.expectedQuoted (String.ofList trimmed))
  | _ => .error (.expectedQuoted (String.ofList trimmed))

end Localize.Po
