import Localize.Signature
import Localize.Json.Decode

/-! # Run configuration

A run is configured by a JSON object with camelCase fields: where templates are
(`templatePaths`, with their `templateExtensions`), which Go package directories to read
(`packagePaths`, `recursive` to go below them), where catalogs go (`output`) and for which
`languages`, which paths to `ignore`, extra message `functions` and whether the built-in ones
come first (`includeDefaultFunctions`), and the catalog `backend`. Every field has a default,
so `{}` is a configuration; signature packages and signatures must give all their fields.

A configuration is usable for a run when it names a language and something to read.
-/

namespace Localize

open Json

/-- How catalogs are normalized and merged: in process, or by the gettext tools. -/
inductive Backend where
  | embedded
  | gettext
deriving Repr, DecidableEq

/-- The names of the backends, in order. -/
def Backend.names : List String := ["embedded", "gettext"]

/-- The name of a backend. -/
def Backend.name : Backend → String
  | .embedded => "embedded"
  | .gettext => "gettext"

/-- The backend with index `i` in `Backend.names`. -/
def Backend.ofIndex (i : Nat) : Backend := if i = 0 then .embedded else .gettext

/-- The configuration of a run. -/
structure Config where
  templatePaths : List String := []
  templateExtensions : List String := [".html"]
  packagePaths : List String := []
  recursive : Bool := false
  output : String := "locales"
  languages : List String := []
  ignore : List String := []
  functions : List SignaturePackage := []
  includeDefaultFunctions : Bool := true
  backend : Backend := .embedded
deriving Repr

/-- Why a configuration cannot be run, if it cannot: no language, or nothing to read. -/
def Config.validate (c : Config) : Option String :=
  if c.languages.isEmpty then some "At least one language must be specified"
  else if c.packagePaths.isEmpty && c.templatePaths.isEmpty then
    some "At least one package path or template path must be specified"
  else none

/-- The signature registry of a configuration. -/
def Config.registry (c : Config) : Except RegistryError Registry :=
  Registry.configured c.includeDefaultFunctions c.functions

/-! ## Reading -/

/-- A signature being read. -/
structure SignatureDraft where
  name : Option String := none
  roles : Option (List Role) := none

/-- How a signature is read: `name` and `arguments` (role names). -/
def signatureShape : RecordShape SignatureDraft Signature where
  name := "FunctionSignature"
  fields := ["name", "arguments"]
  empty := {}
  has d i := if i = 0 then d.name.isSome else d.roles.isSome
  readText i d :=
    if i = 0 then do return { d with name := some (← Scan.readString) }
    else do return { d with roles := some ((← Scan.readList Scan.readString).map Role.parse) }
  readValue i d v :=
    if i = 0 then do return { d with name := some (← Value.toStr v) }
    else do return { d with roles := some ((← Value.toList Value.toStr v).map Role.parse) }
  complete d := match d.name, d.roles with
    | some name, some roles => .ok ⟨name, roles⟩
    | none, _ => .error (0, "name")
    | some _, none => .error (1, "arguments")

/-- A signature package being read. -/
structure PackageDraft where
  prefixes : Option (List String) := none
  functions : Option (List Signature) := none

/-- How a signature package is read: `prefixes` and `functions`. -/
def packageShape : RecordShape PackageDraft SignaturePackage where
  name := "SignaturePackage"
  fields := ["prefixes", "functions"]
  empty := {}
  has d i := if i = 0 then d.prefixes.isSome else d.functions.isSome
  readText i d :=
    if i = 0 then do return { d with prefixes := some (← Scan.readList Scan.readString) }
    else do return { d with functions := some (← Scan.readList (Scan.readRecord signatureShape)) }
  readValue i d v :=
    if i = 0 then do return { d with prefixes := some (← Value.toList Value.toStr v) }
    else do return { d with functions := some (← Value.toList (Value.toRecord signatureShape) v) }
  complete d := match d.prefixes, d.functions with
    | some prefixes, some functions => .ok ⟨prefixes, functions⟩
    | none, _ => .error (0, "prefixes")
    | some _, none => .error (1, "functions")

/-- A configuration being read: each field given so far. -/
structure ConfigDraft where
  templatePaths : Option (List String) := none
  templateExtensions : Option (List String) := none
  packagePaths : Option (List String) := none
  recursive : Option Bool := none
  output : Option String := none
  languages : Option (List String) := none
  ignore : Option (List String) := none
  functions : Option (List SignaturePackage) := none
  includeDefaultFunctions : Option Bool := none
  backend : Option Backend := none

/-- The names of the configuration fields, in declaration order. -/
def configFields : List String :=
  ["templatePaths", "templateExtensions", "packagePaths", "recursive", "output", "languages",
    "ignore", "functions", "includeDefaultFunctions", "backend"]

/-- Whether a draft has field `i`. -/
def ConfigDraft.has (d : ConfigDraft) (i : Nat) : Bool :=
  match i with
  | 0 => d.templatePaths.isSome
  | 1 => d.templateExtensions.isSome
  | 2 => d.packagePaths.isSome
  | 3 => d.recursive.isSome
  | 4 => d.output.isSome
  | 5 => d.languages.isSome
  | 6 => d.ignore.isSome
  | 7 => d.functions.isSome
  | 8 => d.includeDefaultFunctions.isSome
  | _ => d.backend.isSome

/-- A value read for one configuration field. -/
inductive FieldValue where
  | strings (xs : List String)
  | flag (b : Bool)
  | text (s : String)
  | packages (ps : List SignaturePackage)
  | backend (b : Backend)

/-- The draft with field `i` set to a value read for it. -/
def ConfigDraft.set (d : ConfigDraft) (i : Nat) : FieldValue → ConfigDraft
  | .strings xs => match i with
    | 0 => { d with templatePaths := some xs }
    | 1 => { d with templateExtensions := some xs }
    | 2 => { d with packagePaths := some xs }
    | 5 => { d with languages := some xs }
    | _ => { d with ignore := some xs }
  | .flag b => if i = 3 then { d with recursive := some b }
    else { d with includeDefaultFunctions := some b }
  | .text s => { d with output := some s }
  | .packages ps => { d with functions := some ps }
  | .backend b => { d with backend := some b }

/-- Reads the value of configuration field `i` from text. -/
def readConfigField (i : Nat) : Scan FieldValue :=
  match i with
  | 3 | 8 => do return .flag (← Scan.readBool)
  | 4 => do return .text (← Scan.readString)
  | 7 => do return .packages (← Scan.readList (Scan.readRecord packageShape))
  | 9 => do return .backend (Backend.ofIndex (← Scan.readVariant Backend.names))
  | _ => do return .strings (← Scan.readList Scan.readString)

/-- Reads the value of configuration field `i` from a value. -/
def configFieldOf (i : Nat) (v : Value) : Except JsonError FieldValue :=
  match i with
  | 3 | 8 => do return .flag (← Value.toBool v)
  | 4 => do return .text (← Value.toStr v)
  | 7 => do return .packages (← Value.toList (Value.toRecord packageShape) v)
  | 9 => do return .backend (Backend.ofIndex (← Value.toVariant Backend.names v))
  | _ => do return .strings (← Value.toList Value.toStr v)

/-- The configuration of a draft, with defaults for the fields not given. -/
def ConfigDraft.complete (d : ConfigDraft) : Config :=
  { templatePaths := d.templatePaths.getD []
    templateExtensions := d.templateExtensions.getD [".html"]
    packagePaths := d.packagePaths.getD []
    recursive := d.recursive.getD false
    output := d.output.getD "locales"
    languages := d.languages.getD []
    ignore := d.ignore.getD []
    functions := d.functions.getD []
    includeDefaultFunctions := d.includeDefaultFunctions.getD true
    backend := d.backend.getD .embedded }

/-- How a configuration is read. -/
def configShape : RecordShape ConfigDraft Config where
  name := "Config"
  fields := configFields
  empty := {}
  has := ConfigDraft.has
  readText i d := do return d.set i (← readConfigField i)
  readValue i d v := do return d.set i (← configFieldOf i v)
  complete d := .ok d.complete

/-- Reads a configuration from JSON text. -/
def Config.parse (text : String) : Except JsonError Config :=
  readText (Scan.readRecord configShape) text

/-- Reads a configuration from a JSON value. -/
def Config.ofValue (v : Value) : Except JsonError Config :=
  Value.toRecord configShape v

/-- Reads a list of signature packages from a JSON value. -/
def packagesOfValue (v : Value) : Except JsonError (List SignaturePackage) :=
  Value.toList (Value.toRecord packageShape) v

end Localize
