import Localize.Path

/-! # Directory trees

A directory tree in memory: files with text content and directories, addressed by the names
along their path from the tree's root. Every proper prefix of an entry's path is a
directory, and the root is a directory that is always there.

Operations fail as a Linux file system would: a name that is not there is not found, a file
in the middle of a path is not a directory, a directory read as a file is a directory, and a
directory cannot be made where a file is.
-/

namespace Localize.Files

/-- What stands at a path. -/
inductive Node where
  | file (content : String)
  | dir
deriving Repr, DecidableEq

/-- Whether a node is a directory. -/
def Node.isDir : Node → Bool
  | .dir => true
  | .file _ => false

/-- Why a file system operation fails. -/
inductive OsError where
  | notFound
  | notADirectory
  | isADirectory
  | alreadyExists
deriving Repr, DecidableEq

/-- The system's text for an error. -/
def OsError.message : OsError → String
  | .notFound => "No such file or directory (os error 2)"
  | .notADirectory => "Not a directory (os error 20)"
  | .isADirectory => "Is a directory (os error 21)"
  | .alreadyExists => "File exists (os error 17)"

/-- The kind of an error. -/
def OsError.kind : OsError → String
  | .notFound => "NotFound"
  | .notADirectory => "NotADirectory"
  | .isADirectory => "IsADirectory"
  | .alreadyExists => "AlreadyExists"

/-- The short description of an error's kind. -/
def OsError.kindText : OsError → String
  | .notFound => "entity not found"
  | .notADirectory => "not a directory"
  | .isADirectory => "is a directory"
  | .alreadyExists => "entity already exists"

/-- A directory tree: its entries, each a path of names and what stands there. -/
structure Tree where
  entries : List (List String × Node) := []
deriving Repr, DecidableEq

namespace Tree

/-- What stands at a path, if anything. -/
def find? (t : Tree) (path : List String) : Option Node :=
  if path.isEmpty then some .dir else (t.entries.find? (·.1 == path)).map (·.2)

/-- Checks the directories along a path (its proper prefixes, from the top). -/
def checkParents (t : Tree) (path : List String) : Except OsError Unit :=
  (List.range path.length).forM fun i =>
    match t.find? (path.take i) with
    | some .dir => .ok ()
    | some (.file _) => .error .notADirectory
    | none => .error .notFound

/-- What stands at a path; `asDir` when the path was written so that it must be a
directory. -/
def stat (t : Tree) (path : List String) (asDir : Bool) : Except OsError Node := do
  t.checkParents path
  match t.find? path with
  | none => .error .notFound
  | some (.file c) => if asDir then .error .notADirectory else .ok (.file c)
  | some .dir => .ok .dir

/-- The plain path that a path written with `..` names leads to, from `reached`: a `..`
steps back out of the directory reached so far, which must be there. Stepping back out of the
root leaves the tree, where nothing is found. -/
def resolve (t : Tree) : List String → List String → Except OsError (List String)
  | reached, [] => .ok reached
  | reached, name :: rest =>
    if name == ".." then
      match t.stat reached true with
      | .ok _ => if reached.isEmpty then .error .notFound else resolve t reached.dropLast rest
      | .error e => .error e
    else resolve t (reached ++ [name]) rest

/-- The tree without the entry at a path and everything below it. -/
def remove (t : Tree) (path : List String) : Tree :=
  ⟨t.entries.filter fun (p, _) => !path.isPrefixOf p⟩

/-- The tree with `node` at `path`, replacing what was there. -/
def put (t : Tree) (path : List String) (node : Node) : Tree :=
  ⟨(t.entries.filter (·.1 != path)) ++ [(path, node)]⟩

/-- The tree with directories made along a path, as far as they are missing. -/
def makeDirs (t : Tree) (path : List String) : Except OsError Tree :=
  (List.range path.length).foldlM (fun (t : Tree) i =>
    let prefix_ := path.take (i + 1)
    match t.find? prefix_ with
    | some .dir => .ok t
    | some (.file _) => .error (if i + 1 = path.length then .alreadyExists else .notADirectory)
    | none => .ok (t.put prefix_ .dir)) t

/-- The tree with a file written at a path whose directory exists. -/
def writeFile (t : Tree) (path : List String) (content : String) : Except OsError Tree := do
  t.checkParents path
  match t.find? path with
  | some .dir => .error .isADirectory
  | _ => if path.isEmpty then .error .isADirectory else .ok (t.put path (.file content))

/-- The content of the file at a path. -/
def readFile (t : Tree) (path : List String) (asDir : Bool) : Except OsError String := do
  match ← t.stat path asDir with
  | .file c => .ok c
  | .dir => .error .isADirectory

/-- The entries directly in the directory at a path, by name in byte order. -/
def children (t : Tree) (path : List String) : List (String × Node) :=
  let direct := t.entries.filterMap fun (p, node) =>
    match p.drop path.length with
    | [name] => if path.isPrefixOf p then some (name, node) else none
    | _ => none
  direct.mergeSort fun a b => compare a.1 b.1 != .gt

/-- The entries strictly below a path. -/
def below (t : Tree) (path : List String) : List (List String × Node) :=
  t.entries.filter fun (p, _) => path.isPrefixOf p && p.length > path.length

end Tree

end Localize.Files
