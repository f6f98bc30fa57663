import Localize.Files.Tree

/-! # A project directory on disk

A directory tree placed at an absolute root. Paths are texts, relative to the root (the
working directory) or absolute; a path outside the root names nothing, and neither does the
empty path, though making its directories succeeds with nothing to make. A path written with
a trailing slash, or ending in `.`, must name a directory. A `..` in a path steps back out of
the directory before it, which must be there.

A walk lists a directory's entries depth first, each directory before its contents and the
entries of a directory by name in byte order. Each entry's path is its directory's path
joined with its name, so the texts keep the form the walk started from.
-/

namespace Localize.Files

/-- A directory tree at an absolute root. -/
structure Disk where
  root : String
  tree : Tree := {}
deriving Repr, DecidableEq

/-- One entry met by a walk: its path and what it is. -/
structure WalkEntry where
  path : String
  node : Node
deriving Repr

namespace Disk

/-- The names leading from the root to a path, with each `..` resolved, when the path lies
within the root. -/
def locate (d : Disk) (path : String) : Except OsError (List String) :=
  let names? :=
    if Path.isAbsolute path then
      let rootNames := Path.names d.root
      let names := Path.names path
      if rootNames.isPrefixOf names then some (names.drop rootNames.length) else none
    else some (Path.names path)
  match names? with
  | some names => d.tree.resolve [] names
  | none => .error .notFound

/-- The names leading from the root to a path that may name something: a non-empty path
within the root. -/
def locateNamed (d : Disk) (path : String) : Except OsError (List String) :=
  if path.isEmpty then .error .notFound else d.locate path

/-- What stands at a path. -/
def stat (d : Disk) (path : String) : Except OsError Node := do
  d.tree.stat (← d.locateNamed path) (Path.endsAsDirectory path)

/-- The content of the file at a path. -/
def readFile (d : Disk) (path : String) : Except OsError String := do
  d.tree.readFile (← d.locateNamed path) (Path.endsAsDirectory path)

/-- The entries of the directory at a path, by name. -/
def readDir (d : Disk) (path : String) : Except OsError (List (String × Node)) := do
  let names ← d.locateNamed path
  match ← d.tree.stat names true with
  | .dir => .ok (d.tree.children names)
  | .file _ => .error .notADirectory

/-- The disk with the directories along a path made, as far as they are missing. -/
def makeDirs (d : Disk) (path : String) : Except OsError Disk := do
  return { d with tree := ← d.tree.makeDirs (← d.locate path) }

/-- The disk with a file written at a path whose directory exists. -/
def writeFile (d : Disk) (path content : String) : Except OsError Disk := do
  let names ← d.locateNamed path
  if Path.endsAsDirectory path then .error .isADirectory
  else return { d with tree := ← d.tree.writeFile names content }

/-- The disk with a file written, its directory made first. -/
def writeWithDirs (d : Disk) (path content : String) : Except OsError Disk := do
  let names := (d.locate path).toOption.getD []
  let d ← d.makeDirs ("/".intercalate names.dropLast)
  d.writeFile path content

/-- The disk without the file or directory tree at a path, which must exist. -/
def removePath (d : Disk) (path : String) : Except OsError Disk := do
  discard (d.stat path)
  return { d with tree := d.tree.remove ((d.locate path).toOption.getD []) }

/-- The entries below the directory at `names`, walked depth first; `keep` decides which
entries are listed, and a directory not kept is not entered. -/
def walkBelow (d : Disk) (keep : String → Bool) : Nat → String → List String → List WalkEntry
  | 0, _, _ => []
  | fuel + 1, path, names =>
    (d.tree.children names).flatMap fun (name, node) =>
      let child := Path.join path name
      if !keep child then []
      else
        let entry : WalkEntry := ⟨child, node⟩
        match node with
        | .dir => entry :: walkBelow d keep fuel child (names ++ [name])
        | .file _ => [entry]

/-- A walk from `path`: the entry at `path` itself (unless `withStart` is false), then what
lies below it as far as `keep` allows. -/
def walk (d : Disk) (path : String) (withStart : Bool) (keep : String → Bool) :
    Except OsError (List WalkEntry) := do
  let node ← d.stat path
  let names := (d.locate path).toOption.getD []
  let start : List WalkEntry := if withStart then [⟨path, node⟩] else []
  match node with
  | .dir => .ok (start ++ walkBelow d keep (d.tree.entries.length + 1) path names)
  | .file _ => .ok start

end Disk

end Localize.Files
