import Localize.Text.Blank
import Localize.Text.Find

/-! # Catalog entries

A gettext catalog is a list of entries. An entry carries its comments and flags, an optional
context, the message id, an optional plural id and one string per form (`msgstr`). The header
is the live entry with an empty id and no context; its first string holds `Name: value`
fields. Entries are identified by their context and id.
-/

namespace Localize.Po

/-- One catalog entry. -/
structure Entry where
  /-- Comments for whoever fills in the strings (`# ...`). -/
  comments : List String := []
  /-- Comments extracted from the sources (`#. ...`). -/
  extracted : List String := []
  /-- Source positions (`#: file:line`). -/
  references : List String := []
  /-- Flags (`#, fuzzy, c-format`). -/
  flags : List String := []
  /-- Lines describing the previous message (`#| ...`), kept as written. -/
  previous : List String := []
  msgctxt : Option String := none
  msgid : String := ""
  msgidPlural : Option String := none
  /-- One string for a singular entry, one per plural form otherwise. -/
  msgstr : List String := []
  obsolete : Bool := false
deriving Repr, DecidableEq, Inhabited

namespace Entry

/-- The header is the live entry with an empty id and no context. -/
def isHeader (e : Entry) : Bool := e.msgid.isEmpty && e.msgctxt.isNone && !e.obsolete

/-- Whether the entry has a plural id. -/
def isPlural (e : Entry) : Bool := e.msgidPlural.isSome

/-- Whether some form has a non-empty string. -/
def isFilled (e : Entry) : Bool := e.msgstr.any fun s => !s.isEmpty

/-- Whether the entry carries `flag`. -/
def hasFlag (e : Entry) (flag : String) : Bool := e.flags.contains flag

/-- Whether the entry is marked fuzzy. -/
def isFuzzy (e : Entry) : Bool := e.hasFlag "fuzzy"

/-- Adds `flag` at the end unless the entry already carries it. -/
def addFlag (e : Entry) (flag : String) : Entry :=
  if e.hasFlag flag then e else { e with flags := e.flags ++ [flag] }

/-- The identity of an entry: its context and id. -/
def key (e : Entry) : Option String × String := (e.msgctxt, e.msgid)

/-- The first string, or the empty string when there is none. -/
def firstString (e : Entry) : String := e.msgstr.headD ""

end Entry

/-- A catalog: its entries in file order. -/
structure Catalog where
  entries : List Entry := []
deriving Repr, DecidableEq, Inhabited

namespace Catalog

/-- The first header entry. -/
def header? (c : Catalog) : Option Entry := c.entries.find? Entry.isHeader

/-- The entries that are neither the header nor obsolete. -/
def messages (c : Catalog) : List Entry := c.entries.filter fun e => !e.isHeader && !e.obsolete

/-- The first message with the given context and id. -/
def find? (c : Catalog) (msgctxt : Option String) (msgid : String) : Option Entry :=
  c.messages.find? fun e => e.key == (msgctxt, msgid)

end Catalog

end Localize.Po

/-! ## Header fields

The header entry's string is a list of `Name: value` lines. A line is a field named `name` when
the text before its first colon, trimmed, is `name`; its value is the trimmed text after that
colon. Reading takes the first such line; setting replaces the first such line, or appends one.
-/

namespace Localize.Po

open Localize.Text

/-- Whether a header line is the field `name`. -/
def isField (name : List Char) (line : List Char) : Bool :=
  match splitOnce ':' line with
  | some (field, _) => trimBlank field == name
  | none => false

/-- The value of the first field `name` of a header text, trimmed. -/
def headerValue (header name : String) : Option String :=
  (lines header.toList).findSome? fun line =>
    match splitOnce ':' line with
    | some (field, value) =>
      if trimBlank field == name.toList then some (String.ofList (trimBlank value)) else none
    | none => none

/-- The header text with the first field `name` replaced by `name: value`, or with that line
appended, after a newline if the text lacks a final one. -/
def setHeaderField (header name value : String) : String :=
  let fresh := (name ++ ": " ++ value ++ "\n").toList
  let rec replaceFirst : List (List Char) → Option (List (List Char))
    | [] => none
    | line :: rest =>
      if isField name.toList line then some (fresh :: rest)
      else (replaceFirst rest).map (line :: ·)
  let current := pieces header.toList
  match replaceFirst current with
  | some replaced => String.ofList replaced.flatten
  | none =>
    let text := header.toList
    let sep := if text.isEmpty || text.getLast? == some '\n' then [] else ['\n']
    String.ofList (text ++ sep ++ fresh)

end Localize.Po
