import Localize.Text.Find
import Localize.Po.Entry
import Localize.Po.Quoted

/-! # Writing catalogs

A catalog is written header first, then every other entry, with a blank line between entries.
An entry writes its comments, its references (wrapped to lines of at most 79 bytes unless a
line holds a single reference; obsolete entries have none), its flags and previous-message
lines, then its fields, each behind `#~ ` when the entry is obsolete. A string with a newline
before its last character is written over several lines: an empty string, then one line per
newline-ended piece.
-/

namespace Localize.Po

/-- The width in bytes past which reference lines are broken. -/
def referenceWidth : Nat := 79

/-- Whether a string has a newline before its last character. -/
def hasInnerNewline (s : String) : Bool :=
  match s.toList.dropWhile (· != '\n') with
  | _ :: _ :: _ => true
  | _ => false

/-- The lines that write `keyword` with the string `value`. -/
def fieldLines (pre keyword value : String) : List String :=
  if hasInnerNewline value then
    (pre ++ keyword ++ " \"\"") :: (Text.pieces value.toList).map fun piece =>
      pre ++ "\"" ++ escape (String.ofList piece) ++ "\""
  else [pre ++ keyword ++ " \"" ++ escape value ++ "\""]

/-- Adds a reference to the `#:` lines filled so far: the finished lines, newest first, and the
line being filled. A line that the reference would take past `referenceWidth` is finished
first. -/
def fillReference : List String × String → String → List String × String
  | (done, line), reference =>
    let (done, line) :=
      if !line.isEmpty && line.utf8ByteSize + 1 + reference.utf8ByteSize > referenceWidth then
        (line :: done, "")
      else (done, line)
    let line := if line.isEmpty then "#:" else line
    (done, line ++ " " ++ reference)

/-- The `#:` lines for a list of references, filled greedily. -/
def referenceLines (references : List String) : List String :=
  let (done, current) := references.foldl fillReference ([], "")
  (if current.isEmpty then done else current :: done).reverse

/-- The lines of one entry. -/
def Entry.lines (e : Entry) : List String :=
  let pre := if e.obsolete then "#~ " else ""
  let comments := e.comments.map fun c => if c.isEmpty then "#" else "# " ++ c
  let extracted := e.extracted.map ("#. " ++ ·)
  let references := if e.obsolete then [] else referenceLines e.references
  let flags := if e.flags.isEmpty then [] else ["#, " ++ ", ".intercalate e.flags]
  let previous := e.previous.map ("#| " ++ ·)
  let context := match e.msgctxt with
    | some c => fieldLines pre "msgctxt" c
    | none => []
  let strings := match e.msgidPlural with
    | some plural =>
      fieldLines pre "msgid_plural" plural ++
        (e.msgstr.zipIdx.map fun (s, i) => fieldLines pre ("msgstr[" ++ toString i ++ "]") s).flatten
    | none => fieldLines pre "msgstr" e.firstString
  comments ++ extracted ++ references ++ flags ++ previous ++ context ++
    fieldLines pre "msgid" e.msgid ++ strings

/-- The text of one entry: its lines, each ended by a newline. -/
def Entry.render (e : Entry) : String := String.join (e.lines.map (· ++ "\n"))

/-- The entries in written order: the first header, then every entry that is not a header. -/
def Catalog.written (c : Catalog) : List Entry :=
  (c.entries.filter Entry.isHeader).take 1 ++ c.entries.filter (!·.isHeader)

/-- The text of a catalog. -/
def Catalog.render (c : Catalog) : String := "\n".intercalate (c.written.map Entry.render)

end Localize.Po
