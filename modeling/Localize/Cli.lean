import Localize.Run.Session
import Localize.Verbosity
import Localize.Json.Render

/-! # The command line

The command reads a configuration file (the one named with `--config`, else
`makemessages.json` when there is one, else the defaults), lets the options override it,
and runs an extraction. Lists are given comma separated.

Options: `--config` (`-c`), `--template-paths` (`-t`), `--template-extensions` (`-e`),
`--package-paths` (`-p`), `--recursive` (`-r`), `--output` (`-o`), `--languages` (`-l`),
`--backend` (`embedded` or `gettext`) and `--log-level` (`error`, `warn`, `info` or `debug`;
`info` by default). A value follows its option as the next argument or after `=`.

The project the command works on is given as a JSON object from paths to file contents; the
command answers with the project's files after the run, in the same form.
-/

namespace Localize.Cli

open Files Run

/-- The options of the command. -/
structure Options where
  config : Option String := none
  templatePaths : List String := []
  templateExtensions : List String := []
  packagePaths : List String := []
  recursive : Bool := false
  output : Option String := none
  languages : List String := []
  backend : Option Backend := none
  logLevel : String := "info"
deriving Repr

/-- The configuration with the options given on the command line in place of its values. -/
def Options.apply (o : Options) (c : Config) : Config :=
  { c with
    templatePaths := if o.templatePaths.isEmpty then c.templatePaths else o.templatePaths
    templateExtensions :=
      if o.templateExtensions.isEmpty then c.templateExtensions else o.templateExtensions
    packagePaths := if o.packagePaths.isEmpty then c.packagePaths else o.packagePaths
    recursive := c.recursive || o.recursive
    output := o.output.getD c.output
    languages := if o.languages.isEmpty then c.languages else o.languages
    backend := o.backend.getD c.backend }

/-- The long name of an option written short. -/
def longName : String → Option String
  | "-c" => some "--config"
  | "-t" => some "--template-paths"
  | "-e" => some "--template-extensions"
  | "-p" => some "--package-paths"
  | "-r" => some "--recursive"
  | "-o" => some "--output"
  | "-l" => some "--languages"
  | _ => none

/-- The options with option `name` given `value`. -/
def Options.set (o : Options) (name value : String) : Except String Options :=
  let items := value.splitOn ","
  match name with
  | "--config" => .ok { o with config := some value }
  | "--template-paths" => .ok { o with templatePaths := o.templatePaths ++ items }
  | "--template-extensions" => .ok { o with templateExtensions := o.templateExtensions ++ items }
  | "--package-paths" => .ok { o with packagePaths := o.packagePaths ++ items }
  | "--output" => .ok { o with output := some value }
  | "--languages" => .ok { o with languages := o.languages ++ items }
  | "--backend" => match value with
    | "embedded" => .ok { o with backend := some .embedded }
    | "gettext" => .ok { o with backend := some .gettext }
    | _ => .error ("invalid value '" ++ value ++ "' for '--backend <BACKEND>'")
  | "--log-level" => .ok { o with logLevel := value }
  | _ => .error ("unexpected argument '" ++ name ++ "' found")

/-- Reads the arguments into options. -/
def parseArgs (o : Options) : List String → Except String Options
  | [] => .ok o
  | arg :: rest =>
    let name := (longName arg).getD arg
    if name = "--recursive" then parseArgs { o with recursive := true } rest
    else match name.splitOn "=" with
      | [n] => match rest with
        | value :: more => do parseArgs (← o.set n value) more
        | [] => .error ("a value is required for '" ++ n ++ "' but none was supplied")
      | n :: values => do parseArgs (← o.set n ("=".intercalate values)) rest
      | [] => .ok o

/-- The configuration file read when none is named. -/
def defaultConfigFile : String := "makemessages.json"

/-- The configuration for a run over a project directory. -/
def loadConfig (d : Disk) (named : Option String) : Except String Config := do
  let load := fun (path : String) => do
    let text ← match d.readFile path with
      | .ok text => pure text
      | .error e => throw ("Failed to read config file: " ++ path ++ ": " ++ e.message)
    match Config.parse text with
    | .ok c => pure c
    | .error e => throw ("Failed to parse config file: " ++ path ++ ": " ++ e.message)
  match named with
  | some path => load path
  | none =>
    match d.stat defaultConfigFile with
    | .ok _ => load defaultConfigFile
    | .error _ => pure {}

/-- The lines a run reports: the counts, the occurrences per domain and the catalogs. -/
def reportLines (s : Summary) : List String :=
  ("Scanned " ++ toString s.packages ++ " package(s): " ++ toString s.goUnits ++
      " message(s); templates: " ++ toString s.templateUnits ++ " message(s)") ::
    (s.domains.map fun (d, n) => "  " ++ d ++ ": " ++ toString n ++ " message(s)") ++
    s.catalogs.map fun c => "  " ++ c.outcome.name ++ " " ++ Path.display c.path

/-- What the command prints and the project afterwards. -/
structure Outcome where
  /-- Lines for standard output. -/
  out : List String
  /-- Lines for standard error. -/
  err : List String
  project : Disk

/-- The gettext tools as this command finds them: it starts no other program, so running one
fails as for a program that is not installed. -/
def unavailableTools : GettextTools where
  run _ _ _ := .error (.spawn "No such file or directory (os error 2)")

/-- Runs the command with arguments `args` over a project directory; a run with the gettext
backend runs `tools`. -/
def run (tools : GettextTools) (args : List String) (project : Disk) : Except String Outcome := do
  let options ← parseArgs {} args
  let level ← match LogLevel.parse options.logLevel with
    | some level => pure level
    | none => throw ("Unknown log level: " ++ options.logLevel)
  let config := options.apply (← loadConfig project options.config)
  let writer : CatalogWriter := ⟨.system, backendFor tools config.backend⟩
  let (result, after) := (extract writer config).run.run project
  let summary ← result
  let atLeast := fun (l : LogLevel) => l.rank ≤ level.rank
  let warnings := if summary.goUnits + summary.templateUnits = 0 && atLeast .warn then
      ["Warning: No translatable strings found"] else []
  return { out := if atLeast .info then reportLines summary else [], err := warnings,
           project := after }

/-- A project directory from a JSON object of paths and file contents. -/
def projectOf (v : Json.Value) : Except String Disk :=
  match v with
  | .object members => .ok (setup (members.filterMap fun (path, content) =>
      match content with
      | .string text => some (path, text)
      | _ => none) [])
  | _ => .error "the project must be a JSON object of paths and file contents"

/-- The files of a project directory as a JSON object. -/
def filesOf (d : Disk) : Json.Value :=
  .object (d.tree.entries.filterMap fun (names, node) =>
    match node with
    | .file content => some ("/".intercalate names, .string content)
    | .dir => none)

end Localize.Cli
