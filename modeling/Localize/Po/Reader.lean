import Localize.Text.Blank
import Localize.Text.Find
import Localize.Po.Entry
import Localize.Po.Quoted

/-! # Reading catalogs

A catalog is read line by line; each line is trimmed first. A blank line ends the entry being
built. `#~` marks an obsolete line. Comment lines (`#`, `#.`, `#:`, `#,`, `#|`) collect into the
entry, and one after a `msgstr` starts the next entry. A keyword line (`msgctxt`, `msgid`,
`msgid_plural`, `msgstr`, `msgstr[n]`) sets a field to its quoted string; a line that is only a
quoted string continues the last field. A context or id after a `msgstr` starts the next entry.
An entry is kept only when it has an id; an entry without strings gets one empty string.

A `msgstr[n]` line grows the entry's strings to hold form `n`. Growing to more strings than a
list can hold makes the reader panic, so reading ends in a rejected line or in a panic
(`ReadFailure`).
-/

namespace Localize.Po

open Localize.Text

/-- What is wrong with a catalog line. -/
inductive ReadError.Cause
  /-- A string is not enclosed in double quotes; carries the trimmed text. -/
  | expectedQuoted (found : String)
  /-- A backslash ends a string. -/
  | danglingEscape
  /-- A quoted line comes before any keyword of its entry. -/
  | continuationWithoutKeyword
  /-- `msgstr[` has no closing bracket. -/
  | unterminatedIndex
  /-- The index of `msgstr[...]` is not a machine-sized natural number; carries it as written. -/
  | invalidIndex (raw : String)
  /-- The line is neither a comment, a string nor a keyword line. -/
  | unexpectedLine (line : String)
deriving Repr, DecidableEq

/-- A catalog line that cannot be read, with its 1-based number. -/
structure ReadError where
  line : Nat
  cause : ReadError.Cause
deriving Repr, DecidableEq

/-- The text that describes what is wrong with a line. -/
def ReadError.Cause.text : ReadError.Cause → String
  | .expectedQuoted found => "expected quoted string, found " ++ found
  | .danglingEscape => "dangling escape at end of string"
  | .continuationWithoutKeyword => "string continuation without keyword"
  | .unterminatedIndex => "unterminated msgstr index"
  | .invalidIndex raw => "invalid msgstr index '" ++ raw ++ "'"
  | .unexpectedLine line => "unexpected line: " ++ line

/-- The text that reports a read error. -/
def ReadError.message (e : ReadError) : String :=
  "catalog syntax error at line " ++ toString e.line ++ ": " ++ e.cause.text

/-- Why reading a catalog gives no catalog. -/
inductive ReadFailure
  /-- A line cannot be read, and the reader reports it. -/
  | rejected (e : ReadError)
  /-- The reader panics, with the panic's text. -/
  | panicked (text : String)
deriving Repr, DecidableEq

/-- The field a keyword line sets. -/
inductive Field
  | context
  | id
  | idPlural
  /-- The string of plural form `index`; plain `msgstr` is form 0. -/
  | str (index : Nat)
deriving Repr, DecidableEq

/-- The largest machine-sized number, the largest index a `msgstr[n]` line may carry. -/
def wordMax : Nat := Nat.pow 2 64 - 1

/-- The most strings an entry's list can be grown to: strings take 24 bytes each, and a list
takes at most `2 ^ 63 - 8` bytes. -/
def stringCapacity : Nat := (Nat.pow 2 63 - 8) / 24

/-- The largest index a `msgstr[n]` line may store a string at. -/
def maxIndex : Nat := stringCapacity - 1

/-- Reads a decimal index: an optional `+`, then one or more ASCII digits, at most
`wordMax`. -/
def readIndex (cs : List Char) : Option Nat :=
  let digits := match cs with
    | '+' :: rest => rest
    | _ => cs
  if digits.isEmpty || !digits.all Char.isDigit then none
  else
    let n := digits.foldl (fun acc d => acc * 10 + (d.toNat - '0'.toNat)) 0
    if n ≤ wordMax then some n else none

/-- Reads the keyword at the start of a line: the field it sets and the rest of the line. -/
def readKeyword (number : Nat) (line : List Char) : Except ReadError (Field × List Char) :=
  match afterPrefix? "msgctxt".toList line with
  | some rest => .ok (.context, rest)
  | none =>
  match afterPrefix? "msgid_plural".toList line with
  | some rest => .ok (.idPlural, rest)
  | none =>
  match afterPrefix? "msgid".toList line with
  | some rest => .ok (.id, rest)
  | none =>
  match afterPrefix? "msgstr[".toList line with
  | some rest =>
    match splitOnce ']' rest with
    | none => .error ⟨number, .unterminatedIndex⟩
    | some (raw, rest) =>
      match readIndex (trimBlank raw) with
      | some index => .ok (.str index, rest)
      | none => .error ⟨number, .invalidIndex (String.ofList raw)⟩
  | none =>
  match afterPrefix? "msgstr".toList line with
  | some rest => .ok (.str 0, rest)
  | none => .error ⟨number, .unexpectedLine (String.ofList line)⟩

/-- `xs` with position `i` set to `v`, padded with empty strings to reach it. -/
def setPadded (xs : List String) (i : Nat) (v : String) : List String :=
  (xs ++ List.replicate (i + 1 - xs.length) "").set i v

/-- The text of the panic of growing a list of strings to `index + 1` strings when it cannot.
At the largest machine-sized index that length wraps to zero, so the list is cut to nothing and
`index` is out of bounds; below it the list's capacity overflows. -/
def growthPanic (index : Nat) : String :=
  if index = wordMax then "index out of bounds: the len is 0 but the index is 18446744073709551615"
  else "capacity overflow"

/-- The text of the panic that growing a list of `length` strings to hold position `index` ends
in, if it does: a list that holds the position already does not grow, and a list holds at most
`stringCapacity` strings. -/
def growPanic? (length index : Nat) : Option String :=
  if index < length ∨ index < stringCapacity then none else some (growthPanic index)

/-- The text of the panic that making room for `field` in `e` ends in, if it does: only a form
past the end of the strings needs room. -/
def Entry.growPanic? (e : Entry) : Field → Option String
  | .str i => Po.growPanic? e.msgstr.length i
  | _ => none

/-- The entry with `field` changed by `f`; a missing context or plural id starts empty and a
missing form is padded in. -/
def Entry.modifyField (e : Entry) (field : Field) (f : String → String) : Entry :=
  match field with
  | .context => { e with msgctxt := some (f (e.msgctxt.getD "")) }
  | .id => { e with msgid := f e.msgid }
  | .idPlural => { e with msgidPlural := some (f (e.msgidPlural.getD "")) }
  | .str i => { e with msgstr := setPadded e.msgstr i (f (e.msgstr.getD i "")) }

/-- The entry being read, with the field that a quoted line continues and whether an id and a
string have been seen. -/
structure Draft where
  entry : Entry := {}
  field : Option Field := none
  seenId : Bool := false
  seenStr : Bool := false

/-- The entries read so far (newest first) and the entry being read. -/
structure ReadState where
  done : List Entry := []
  draft : Draft := {}

/-- Ends the entry being read: it is kept when it has an id, with one empty string when it has
none. -/
def ReadState.finish (s : ReadState) : ReadState :=
  if s.draft.seenId then
    let e := s.draft.entry
    let e := if e.msgstr.isEmpty then { e with msgstr := [""] } else e
    { done := e :: s.done }
  else { done := s.done }

/-- The entry being read, changed by `f`. -/
def ReadState.edit (s : ReadState) (f : Entry → Entry) : ReadState :=
  { s with draft := { s.draft with entry := f s.draft.entry } }

/-- Takes in a comment line of a live entry; `body` follows the `#`. -/
def ReadState.comment (s : ReadState) (body : List Char) : ReadState :=
  let s := if s.draft.seenStr then s.finish else s
  match body with
  | ':' :: r => s.edit fun e => { e with references := e.references ++ (words r).map String.ofList }
  | ',' :: r =>
    let flags := ((r.splitOn ',').map trimBlank).filter (!·.isEmpty)
    s.edit fun e => { e with flags := e.flags ++ flags.map String.ofList }
  | '.' :: r => s.edit fun e => { e with extracted := e.extracted ++ [String.ofList (trimBlank r)] }
  | '|' :: r => s.edit fun e => { e with previous := e.previous ++ [String.ofList (trimBlank r)] }
  | _ =>
    let text := match body with
      | ' ' :: r => r
      | _ => body
    s.edit fun e => { e with comments := e.comments ++ [String.ofList text] }

/-- The error for a string that cannot be read on line `number`. -/
def quoteError (number : Nat) : QuoteError → ReadError
  | .expectedQuoted found => ⟨number, .expectedQuoted found⟩
  | .danglingEscape => ⟨number, .danglingEscape⟩

/-- Takes in a keyword line; `obsolete` tells whether it was marked `#~`. -/
def ReadState.keyword (s : ReadState) (number : Nat) (obsolete : Bool) (line : List Char) :
    Except ReadFailure ReadState := do
  let (field, rest) ← (readKeyword number line).mapError .rejected
  let startsEntry := match field with
    | .context | .id => true
    | _ => false
  let s := if startsEntry && s.draft.seenStr then s.finish else s
  let s := if obsolete then s.edit fun e => { e with obsolete := true } else s
  let d := s.draft
  let d := match field with
    | .id => { d with seenId := true }
    | .str _ => { d with seenStr := true }
    | _ => d
  let s := { s with draft := { d with field := some field } }
  let value ← (unquote rest).mapError fun e => .rejected (quoteError number e)
  match s.draft.entry.growPanic? field with
  | some text => throw (.panicked text)
  | none => return s.edit fun e => e.modifyField field fun _ => value

/-- Takes in line `number`. -/
def ReadState.line (s : ReadState) (number : Nat) (raw : List Char) :
    Except ReadFailure ReadState :=
  let line := trimBlank raw
  if line.isEmpty then .ok s.finish
  else
    let (obsolete, line) := match afterPrefix? "#~".toList line with
      | some rest => (true, dropBlank rest)
      | none => (false, line)
    match obsolete, line with
    | true, [] => .ok s
    | true, '|' :: r => .ok (s.edit fun e => { e with previous := e.previous ++ [String.ofList (trimBlank r)] })
    | false, '#' :: body => .ok (s.comment body)
    | _, '"' :: _ =>
      match s.draft.field with
      | none => .error (.rejected ⟨number, .continuationWithoutKeyword⟩)
      | some field => do
        let value ← (unquote line).mapError fun e => .rejected (quoteError number e)
        return s.edit fun e => e.modifyField field (· ++ value)
    | _, _ => s.keyword number obsolete line

/-- Takes in the lines, the first of them numbered `number`. -/
def ReadState.lines (s : ReadState) (number : Nat) : List (List Char) → Except ReadFailure ReadState
  | [] => .ok s
  | l :: ls => do
    let s ← s.line number l
    s.lines (number + 1) ls

/-- Reads a catalog text. -/
def Catalog.parse (text : String) : Except ReadFailure Catalog := do
  let s ← ({} : ReadState).lines 1 (lines text.toList)
  return { entries := s.finish.done.reverse }

end Localize.Po
