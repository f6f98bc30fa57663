import Localize.Files.Disk
import Localize.Glob
import Localize.Go.Extract
import Localize.Go.Package
import Localize.Template.Scanner

/-! # Reading sources from a project directory

Go packages are directories of `.go` files (test files and hidden files left out), read in
name order. A package's import path comes from the nearest `go.mod` at or above its directory:
the module path, followed by the directory's path below the module's root. Without a
`go.mod`, or with one that names no module, the import path is empty.

Below a package path, with `recursive`, every directory is a package too, except hidden ones
and those an ignore pattern matches (with everything below them).

Templates are the files below a template path (or the file it names) whose extension is one of
the configured ones; files an ignore pattern matches are left out.

A run changes the project directory as it goes; when it fails, what it wrote stays.
-/

namespace Localize.Run

open Files

/-- A step of a run over a project directory: it may fail with an error text. -/
abbrev RunM := ExceptT String (StateM Disk)

/-- Lifts a checked value into a run. -/
def orFail : Except String α → RunM α
  | .ok a => pure a
  | .error e => throw e

/-- The text of a failed walk started at `path`. -/
def walkFailure (path : String) (e : OsError) : String :=
  "IO error for operation on " ++ path ++ ": " ++ e.message ++ ": " ++ e.message

/-- Whether the last name of a path starts with a dot (other than `.` and `..`). -/
def isHidden (path : String) : Bool :=
  match Path.fileName? path with
  | some name => name.startsWith "." && name != "." && name != ".."
  | none => false

/-- Whether a file name is a Go source that belongs to its package's build. -/
def isGoSource (name : String) : Bool :=
  name.endsWith ".go" && !name.endsWith "_test.go" && !name.startsWith "."

/-- The import path of the package in directory `dir`. -/
def importPathFor (d : Disk) (dir : String) : String :=
  match d.locate dir with
  | .error _ => ""
  | .ok names =>
    let found := (List.range (names.length + 1)).reverse.findSome? fun k =>
      match d.tree.find? (names.take k ++ ["go.mod"]) with
      | some (.file content) => some (k, content)
      | _ => none
    match found with
    | none => ""
    | some (k, content) =>
      match Go.modulePath content with
      | none => ""
      | some module =>
        let below := "/".intercalate (names.drop k)
        if below.isEmpty then module else module ++ "/" ++ below

/-- The Go package in directory `dir`, if it has Go sources. -/
def loadPackage (dir : String) : RunM (Option Go.Package) := do
  let d ← get
  let entries ← match d.readDir dir with
    | .ok entries => pure entries
    | .error e => throw ("Failed to read directory: " ++ dir ++ ": " ++ e.message)
  let files := entries.filterMap fun (name, node) =>
    match node with
    | .file content => if isGoSource name then some (Go.GoFile.read (Path.join dir name) content)
      else none
    | .dir => none
  if files.isEmpty then return none
  return some ⟨importPathFor d dir, files⟩

/-- The directories read as packages for package path `base`: `base` itself, then with
`recursive` the directories below it that are neither hidden nor ignored. -/
def packageDirs (base : String) (recursive : Bool) (ignore : List Glob.Pattern) :
    RunM (List String) := do
  if !recursive then return [base]
  let keep := fun p => !isHidden p && !Glob.ignored ignore p
  match (← get).walk base false keep with
  | .ok entries => return base :: (entries.filter (·.node.isDir)).map (·.path)
  | .error e => throw ("Failed to walk directory: " ++ base ++ ": " ++ walkFailure base e)

/-- The Go packages of package path `base`. -/
def loadPackages (base : String) (recursive : Bool) (ignore : List Glob.Pattern) :
    RunM (List Go.Package) := do
  let dirs ← packageDirs base recursive ignore
  dirs.filterMapM loadPackage

/-- Whether a path's file name has one of the extensions (each written with or without
leading dots). -/
def hasAllowedExtension (path : String) (extensions : List String) : Bool :=
  match (Path.fileName? path).bind Path.extension? with
  | some ext => extensions.any fun allowed => String.ofList (allowed.toList.dropWhile (· == '.')) == ext
  | none => false

/-- The template files found from `root`: the walk's regular files with an allowed extension
that no ignore pattern matches, with their contents. -/
def templateFiles (root : String) (extensions : List String) (ignore : List Glob.Pattern) :
    RunM (List (String × String)) := do
  match (← get).walk root true fun _ => true with
  | .ok entries =>
    return entries.filterMap fun e =>
      match e.node with
      | .file content =>
        if hasAllowedExtension e.path extensions && !Glob.ignored ignore e.path then
          some (e.path, content)
        else none
      | .dir => none
  | .error e => throw ("Cannot walk template path: " ++ root ++ ": " ++ walkFailure root e)

/-- The message occurrences of the templates found from `root`, in walk order. -/
def templateOccurrences (root : String) (extensions : List String) (ignore : List Glob.Pattern) :
    RunM (List Occurrence) := do
  let files ← templateFiles root extensions ignore
  files.flatMapM fun (path, content) =>
    match (Template.TagScanner.new content).occurrences (Path.display path) with
    | .ok (.ok found) => pure found
    | .ok (.error e) => throw e
    | .error fault => throw (fault.message content.toList)

end Localize.Run
