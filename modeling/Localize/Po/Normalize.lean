import Localize.Po.Entry

/-! # Removing duplicate entries

Normalizing keeps the first header and one entry per identity (obsolete or not, context, id),
at the place of that identity's first occurrence. A later duplicate adds what the kept entry
lacks: references, extracted and plain comments it does not have yet, its flags, a plural
id, and its strings when the kept entry has none filled in.
-/

namespace Localize.Po

/-- `target` followed by each value not already present, in order. -/
def pushMissing (target values : List String) : List String :=
  values.foldl (fun acc v => if acc.contains v then acc else acc ++ [v]) target

/-- Strings shaped for a singular entry (the first string alone) or for a plural entry with at
least `forms` forms (padded with empty strings). -/
def reshape (msgstr : List String) (plural : Bool) (forms : Nat) : List String :=
  if plural then msgstr ++ List.replicate (forms - msgstr.length) "" else [msgstr.headD ""]

/-- The identity under which normalizing merges entries. -/
def Entry.dedupKey (e : Entry) : Bool × Option String × String := (e.obsolete, e.msgctxt, e.msgid)

/-- The kept entry `target` after taking in its duplicate `dup`. -/
def Entry.absorb (target dup : Entry) : Entry :=
  let t := { target with
    references := pushMissing target.references dup.references
    extracted := pushMissing target.extracted dup.extracted
    comments := pushMissing target.comments dup.comments }
  let t := dup.flags.foldl Entry.addFlag t
  let t :=
    if t.msgidPlural.isNone && dup.msgidPlural.isSome then
      { t with msgidPlural := dup.msgidPlural
               msgstr := reshape t.msgstr true (max dup.msgstr.length 2) }
    else t
  if !t.isFilled && dup.isFilled then
    { t with msgstr := reshape dup.msgstr t.isPlural t.msgstr.length }
  else t

/-- Takes one entry into the entries kept so far; the flag tells whether a header is kept. -/
def keepEntry (state : List Entry × Bool) (e : Entry) : List Entry × Bool :=
  let (kept, hasHeader) := state
  if e.isHeader then
    if hasHeader then (kept, true) else (kept ++ [e], true)
  else
    match kept.findIdx? fun k => !k.isHeader && k.dedupKey == e.dedupKey with
    | some i => (kept.modify i (·.absorb e), hasHeader)
    | none => (kept ++ [e], hasHeader)

/-- The catalog with its first header and one entry per identity. -/
def Catalog.normalize (c : Catalog) : Catalog :=
  { entries := (c.entries.foldl keepEntry ([], false)).1 }

end Localize.Po
