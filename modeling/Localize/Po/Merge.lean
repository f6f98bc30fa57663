import Localize.Po.Entry
import Localize.Po.Normalize

/-! # Merging an incoming catalog into an existing one

The result follows the incoming catalog. Its header is the existing header with the incoming
creation date, or the incoming header when there is no existing one. Each live incoming entry
follows, taking the strings, plain comments and flags of the existing entry selected for
its identity. Existing entries that no incoming entry selected come last, obsolete and without
references, so no string is lost.

The existing entries are first indexed by identity (`indexOf`), in order: a message is entered
under its identity unless a live entry is entered there already, so an identity ends up with its
first live entry, or, when it has none, its last obsolete one.
-/

namespace Localize.Po

/-- The header field that records when the incoming catalog was made. -/
def creationField : String := "POT-Creation-Date"

/-- The merge's index of the existing entries: the position entered for each identity. -/
abbrev Lookup := Option String × String → Option Nat

/-- The index with position `i` entered for identity `key`. -/
def Lookup.insert (lookup : Lookup) (key : Option String × String) (i : Nat) : Lookup :=
  fun k => if k = key then some i else lookup k

/-- One step of indexing the existing entries `es`: a message is entered under its identity
unless the entry entered there is live. -/
def indexStep (es : List Entry) (lookup : Lookup) : Entry × Nat → Lookup
  | (e, i) =>
    if e.isHeader then lookup
    else if (lookup e.key).any fun other => es[other]?.any (!·.obsolete) then lookup
    else Lookup.insert lookup e.key i

/-- The index of the existing entries, built over them in order. -/
def indexOf (es : List Entry) : Lookup :=
  es.zipIdx.foldl (indexStep es) fun _ => none

/-- The existing entry the index gives for identity `key`, with its position. -/
def lookupEntry (es : List Entry) (lookup : Lookup) (key : Option String × String) :
    Option (Entry × Nat) :=
  (lookup key).bind fun i => es[i]?.map (·, i)

/-- The incoming entry `new` with what it keeps of the existing entry `old`. -/
def Entry.mergeWith (old new : Entry) : Entry :=
  let m := { new with obsolete := false, comments := old.comments }
  let m := old.flags.foldl Entry.addFlag m
  let m := { m with
    previous := if old.isFuzzy then old.previous else []
    msgstr := reshape old.msgstr new.isPlural (max new.msgstr.length 2) }
  if old.isPlural != new.isPlural && old.isFilled then m.addFlag "fuzzy" else m

/-- The header of a merge. -/
def mergedHeader (old new : Option Entry) : Option Entry :=
  match old with
  | some old =>
    match new.bind fun h => headerValue h.firstString creationField with
    | some created =>
      some { old with msgstr := [setHeaderField old.firstString creationField created] }
    | none => some old
  | none => new

/-- Folds `incoming` into `existing`. -/
def Catalog.merge (existing incoming : Catalog) : Catalog :=
  let lookup := indexOf existing.entries
  let olds := existing.entries.zipIdx
  let live := incoming.entries.filter fun e => !e.isHeader && !e.obsolete
  let merged := live.map fun n =>
    match lookupEntry existing.entries lookup n.key with
    | some (old, _) => old.mergeWith n
    | none => n
  let used := live.filterMap fun n => lookup n.key
  let leftovers := olds.filterMap fun (e, i) =>
    if e.isHeader || used.contains i then none
    else some { e with obsolete := true, references := [] }
  { entries := (mergedHeader existing.header? incoming.header?).toList ++ merged ++ leftovers }

end Localize.Po
