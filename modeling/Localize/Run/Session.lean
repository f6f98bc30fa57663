import Localize.Run.Extract
import Localize.Text.Find

/-! # Sessions over a project directory

A session starts from a fresh project directory holding some files and directories, and runs
steps in order: extraction runs, and writing, making, removing or reading paths. Every step
is answered, and a failing step does not stop the ones after it.

Paths in steps, and a run's output directory and languages, must be relative and must not
climb out with `..`. A run's answer lists everything below its output directory afterwards,
by path from the project's root; directories end with a slash. In the text of a failed run,
the project's absolute path reads `<root>`.
-/

namespace Localize.Run

open Files

/-- The absolute path the project directory stands at. -/
def projectRoot : String := "/tmp/.tmpAAAAAA"

/-- One step of a session. -/
inductive Step where
  /-- An extraction run with a configuration given as a JSON value. -/
  | run (config : Json.Value)
  | write (path content : String)
  | mkdir (path : String)
  | remove (path : String)
  | read (path : String)
  | unknown (action : String)

/-- The answer to a step. -/
inductive Answer where
  /-- A run's summary and the files below its output directory. -/
  | ran (summary : Summary) (files : List (String × String))
  | done
  | content (text : String)
  /-- A failed step: the kind of failure and its text. -/
  | failed (kind message : String)

/-- Whether a path may be used: relative, without `..`. -/
def isSafe (path : String) : Bool :=
  !Path.isAbsolute path && !(Path.names path).contains ".."

/-- The failure for a path that may not be used. -/
def unsafePath (path : String) : Answer := .failed "BadRequest" ("unsafe path '" ++ path ++ "'")

/-- The answer for a failed file system operation. -/
def osFailure (e : OsError) : Answer := .failed e.kind e.kindText

/-- The entries below `output`, each with its path from the root (directories ending with a
slash) and its content. -/
def listing (d : Disk) (output : String) : List (String × String) :=
  match d.locate output with
  | .error _ => []
  | .ok names => (d.tree.below names).map fun (path, node) =>
    match node with
    | .dir => ("/".intercalate path ++ "/", "")
    | .file content => ("/".intercalate path, content)

/-- Runs an extraction with a configuration read from a value. -/
def runStep (config : Json.Value) : StateM Disk Answer := do
  match Config.ofValue config with
  | .error e => return .failed "ConfigParse" e.message
  | .ok c =>
    match (c.output :: c.languages).find? (!isSafe ·) with
    | some path => return unsafePath path
    | none =>
      -- the session's driver runs no external program, and refuses the gettext backend
      if c.backend = .gettext then
        return .failed "BadRequest" "the gettext backend is not available"
      match ← (extract .embedded c).run with
      | .ok summary => return .ran summary (listing (← get) c.output)
      | .error e =>
        let shown := String.ofList (Text.replaceAll projectRoot.toList "<root>".toList e.toList)
        return .failed "Error" shown

/-- Applies a file system change, answering `done` or the failure. -/
def change (f : Disk → Except OsError Disk) : StateM Disk Answer := do
  match f (← get) with
  | .ok d => set d; return .done
  | .error e => return osFailure e

/-- Answers one step. -/
def answer (step : Step) : StateM Disk Answer :=
  match step with
  | .run config => runStep config
  | .write path content =>
    if isSafe path then change (·.writeWithDirs path content) else pure (unsafePath path)
  | .mkdir path => if isSafe path then change (·.makeDirs path) else pure (unsafePath path)
  | .remove path => if isSafe path then change (·.removePath path) else pure (unsafePath path)
  | .read path =>
    if isSafe path then do
      match (← get).readFile path with
      | .ok text => return .content text
      | .error e => return osFailure e
    else pure (unsafePath path)
  | .unknown action => pure (.failed "BadRequest" ("unknown action '" ++ action ++ "'"))

/-- A fresh project directory holding `files` (with their directories) and `dirs`. -/
def setup (files : List (String × String)) (dirs : List String) : Disk :=
  let withFiles := files.foldl (fun d (path, content) =>
    (d.writeWithDirs path content).toOption.getD d) ({ root := projectRoot } : Disk)
  dirs.foldl (fun d path => (d.makeDirs path).toOption.getD d) withFiles

/-- Answers the steps of a session in order. -/
def session (files : List (String × String)) (dirs : List String) (steps : List Step) :
    List Answer :=
  (Id.run ((steps.mapM answer).run (setup files dirs))).1

end Localize.Run
