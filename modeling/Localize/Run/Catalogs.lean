import Localize.Run.Sources
import Localize.Store
import Localize.Po.Normalize
import Localize.Po.Merge
import Localize.Po.Printer
import Localize.Po.Reader

/-! # Writing catalogs

Each language gets a directory below the output directory, made if missing, and in it one
catalog per domain, `<domain>.po`. The canonical text of a domain is first written to a scratch
file and normalized there by the backend (its duplicates folded together). A missing catalog is
created from it; an existing one is merged with it, so strings already filled in are kept.

The backend is the embedded one, built on this library's catalogs, or the gettext tools, which
are programs outside it: they are a parameter (`GettextTools`), as are the system's scratch
files (`Scratch`), with what a writer relies on from them stated as `Scratch.Reliable`.

Writing fails when a language directory's path holds a file, when a catalog's path holds a
directory, when an existing catalog cannot be read, or when a scratch file or a tool fails.
-/

namespace Localize.Run

open Files

/-- How a catalog reached its place. -/
inductive Outcome where
  | created
  | merged
deriving Repr, DecidableEq

/-- The name of an outcome. -/
def Outcome.name : Outcome → String
  | .created => "created"
  | .merged => "merged"

/-- One catalog written by a run. -/
structure CatalogReport where
  language : String
  domain : String
  path : String
  outcome : Outcome
deriving Repr

/-- Makes sure a directory is at `path`, making it (and its parents) if nothing is there. -/
def ensureDirectory (path : String) : RunM Unit := do
  let d ← get
  match d.stat path with
  | .ok .dir => pure ()
  | .ok (.file _) => throw ("path " ++ path ++ " already exists, but is not a directory")
  | .error .notFound =>
    match d.makeDirs path with
    | .ok d => set d
    | .error e => throw ("could not create folder '" ++ path ++ "': " ++ e.message)
  | .error e => throw ("stat returned error for folder '" ++ path ++ "': " ++ e.message)

/-- Writes a file whose directory exists. -/
def putFile (path content : String) : RunM Unit := do
  match (← get).writeFile path content with
  | .ok d => set d
  | .error e => throw ("could not create file '" ++ path ++ "': " ++ e.message)

/-- Where the canonical text of a catalog waits to be normalized. The real name has six random
characters in place of the `A`s. -/
def draftPath : String := "/tmp/domain.AAAAAA.pot"

/-- The failure for a catalog at `path` whose text cannot be read. A panic of the reader ends
the run with the panic's text. -/
def unreadable (path : String) : Po.ReadFailure → String
  | .rejected e => "Failed to parse catalog: " ++ path ++ ": " ++ e.message
  | .panicked text => text

/-- Reads the catalog text at `path`, failing when it cannot be read. -/
def readCatalog (path text : String) : RunM Po.Catalog :=
  match Po.Catalog.parse text with
  | .ok c => pure c
  | .error e => throw (unreadable path e)

/-- The text of the catalog file at `path`, failing when it cannot be read. -/
def catalogText (path : String) : RunM String := do
  match (← get).readFile path with
  | .ok text => pure text
  | .error e => throw ("Failed to read catalog: " ++ path ++ ": " ++ e.message)

/-! ## The scratch file and the backends -/

/-- The temporary `domain.*.pot` file a catalog body is normalized in. It is made in the
system's temporary directory, outside the project, so the disk of a run does not hold it; the
system may refuse each step on it, with its own message. -/
structure Scratch where
  /-- Makes a fresh file and answers its path. -/
  create : Except String String
  /-- Writes a text to the file at a path and flushes it. -/
  write : String → String → Except String Unit
  /-- Reads the file at a path back, given the text last written to it. -/
  read : String → String → Except String String

/-- What a catalog writer relies on from its scratch files: a fresh one can be made, and it
takes every text written to it and gives it back. -/
structure Scratch.Reliable (s : Scratch) : Prop where
  created : ∃ path, s.create = .ok path
  writes : ∀ path text, s.write path text = .ok ()
  reads : ∀ path text, s.read path text = .ok text

/-- The scratch files of a system whose temporary directory takes every file: the fresh file is
made at `draftPath`. -/
def Scratch.system : Scratch := ⟨.ok draftPath, fun _ _ => .ok (), fun _ text => .ok text⟩

theorem Scratch.system_reliable : Scratch.system.Reliable :=
  ⟨⟨draftPath, rfl⟩, fun _ _ => rfl, fun _ _ => rfl⟩

/-- How a catalog is normalized and merged. -/
structure CatalogBackend where
  /-- Normalizes the catalog in the scratch file at a path, which was last given a text, in
  place; answers the text the file then holds. -/
  normalize : Scratch → String → String → Except String String
  /-- Merges the catalog in the scratch file at a path, last given a text, into the catalog at
  a destination, rewriting the destination. -/
  merge : Scratch → (destination scratchPath text : String) → RunM Unit

/-- The backend built on this library's reader, normalizer, merger and printer. -/
def CatalogBackend.embedded : CatalogBackend where
  normalize scratch path text := do
    let held ← (scratch.read path text).mapError
      fun cause => "Failed to read catalog: " ++ path ++ ": " ++ cause
    let catalog ← (Po.Catalog.parse held).mapError (unreadable path)
    let normalized := catalog.normalize.render
    (scratch.write path normalized).mapError
      fun cause => "Failed to write temporary file for: " ++ path ++ ": " ++ cause
    return normalized
  merge scratch destination path text := do
    let existing ← readCatalog destination (← catalogText destination)
    let held ← orFail ((scratch.read path text).mapError
      fun cause => "Failed to read catalog: " ++ path ++ ": " ++ cause)
    let incoming ← readCatalog path held
    putFile destination (existing.merge incoming).render

/-- How running an external program failed. -/
inductive ToolFailure where
  /-- The program could not be started; the system's message. -/
  | spawn (cause : String)
  /-- The program ended with a failing status; the status and what it wrote to standard
  error. -/
  | failed (status stderr : String)

/-- The text of a failure of the command line `command`. -/
def ToolFailure.message (command : String) : ToolFailure → String
  | .spawn cause => "could not run command '" ++ command ++ "': " ++ cause
  | .failed status stderr => "command '" ++ command ++ "' failed with " ++ status ++ "\n" ++ stderr

/-- The gettext command line tools: the programs run for normalizing and merging, and what
running a program does. The programs are not part of this library; `run` answers, for a
program, its arguments and the texts of the files it reads, the text it writes to its output
file, or how it failed. -/
structure GettextTools where
  msguniq : String := "msguniq"
  msgmerge : String := "msgmerge"
  run : String → List String → List String → Except ToolFailure String

/-- Runs a tool, with the failure given as text. -/
def GettextTools.runText (tools : GettextTools) (program : String) (args inputs : List String) :
    Except String String :=
  (tools.run program args inputs).mapError (·.message (" ".intercalate (program :: args)))

/-- The backend that runs `msguniq` on the scratch file, and `msgmerge` on the destination
and the scratch file, each writing its output over its first file. -/
def GettextTools.backend (tools : GettextTools) : CatalogBackend where
  normalize _ path text := tools.runText tools.msguniq ["--to-code=utf-8", "-o", path, path] [text]
  merge _ destination path text := do
    -- the writer merges only into a regular file, which reads
    let existing ← catalogText destination
    let merged ← orFail (tools.runText tools.msgmerge
      ["-N", "-q", "--previous", "-o", destination, destination, path] [existing, text])
    putFile destination merged

/-! ## Writing one catalog -/

/-- What writes catalogs: where bodies wait, and the backend that normalizes and merges them. -/
structure CatalogWriter where
  scratch : Scratch
  backend : CatalogBackend

/-- Whether a regular file is at the path a catalog goes to; anything else there fails the
write. -/
def fileState (path : String) : RunM Bool := do
  match (← get).stat path with
  | .ok (.file _) => pure true
  | .ok .dir => throw ("cannot update path " ++ path ++ " - is not a file")
  | .error .notFound => pure false
  | .error e => throw ("stat returned error for '" ++ path ++ "': " ++ e.message)

/-- Writes `body` to a fresh scratch file and normalizes it there; answers the file's path and
the text it then holds. -/
def CatalogWriter.draft (writer : CatalogWriter) (body : String) :
    Except String (String × String) := do
  let path ← writer.scratch.create.mapError ("could not create temporary domain file: " ++ ·)
  (writer.scratch.write path body).mapError ("could not write temporary domain file: " ++ ·)
  let normalized ← writer.backend.normalize writer.scratch path body
  return (path, normalized)

/-- Brings catalog text `body` to `path`: normalizes it in a scratch file, then creates the
catalog from the scratch file's text, or merges that text into the catalog there, so strings
already filled in are kept. The path is checked first and written last. -/
def CatalogWriter.write (writer : CatalogWriter) (path body : String) : RunM Outcome := do
  let present ← fileState path
  let (draft, normalized) ← orFail (writer.draft body)
  if present then
    writer.backend.merge writer.scratch path draft normalized
    return .merged
  else
    let text ← orFail ((writer.scratch.read draft normalized).mapError
      fun cause => "Failed to read normalized catalog: " ++ draft ++ ": " ++ cause)
    putFile path text
    return .created

/-- The writer of a run with the embedded backend on a system that takes every scratch file. -/
def CatalogWriter.embedded : CatalogWriter := ⟨.system, .embedded⟩

/-- Brings catalog text `body` to `path` with the embedded backend. -/
def writeCatalog (path body : String) : RunM Outcome := CatalogWriter.embedded.write path body

/-! ## Writing the catalogs of a store -/

/-- Writes one catalog per language and domain of the store below `output`. -/
def materialize (writer : CatalogWriter) (store : Store) (output : String)
    (languages : List String) : RunM (List CatalogReport) := do
  if languages.isEmpty then throw "At least one language must be specified"
  languages.flatMapM fun language => do
    let dir := Path.join output language
    ensureDirectory dir
    store.domains.mapM fun domain => do
      let path := Path.join dir (domain ++ ".po")
      let outcome ← writer.write path (store.renderDomain domain language)
      return ⟨language, domain, path, outcome⟩

end Localize.Run
