import Localize.Config
import Localize.Run.Catalogs

/-! # An extraction run

A run checks its configuration, reads the messages of every package path and then of every
template path, groups them by domain and writes the catalogs. Package paths are taken
relative to the working directory and made absolute, and positions in a package are
relative to its package path; template positions show the template's path as walked.
-/

namespace Localize.Run

open Files

/-- What a run did. -/
structure Summary where
  packages : Nat
  goUnits : Nat
  templateUnits : Nat
  /-- The number of occurrences per domain, domains in byte order. -/
  domains : List (String × Nat)
  catalogs : List CatalogReport
deriving Repr

/-- The backend a configuration names, with the gettext tools it would run. -/
def backendFor (tools : GettextTools) : Backend → CatalogBackend
  | .embedded => .embedded
  | .gettext => tools.backend

/-- The occurrences of the Go packages below package path `packagePath`, and the number of
packages. A literal that cannot be cut out of its quotes ends the run with the fault's text. -/
def packageOccurrences (registry : Registry) (ignore : List Glob.Pattern) (recursive : Bool)
    (packagePath : String) : RunM (Nat × List Occurrence) := do
  if packagePath.isEmpty then
    throw "Cannot get absolute path of : cannot make an empty path absolute"
  let base := Path.absoluteIn (← get).root packagePath
  let packages ← loadPackages base recursive ignore
  let found ← orFail (packages.mapM fun p => p.occurrences registry base)
  return (packages.length, found.flatten)

/-- Runs an extraction with a configuration, writing catalogs with `writer`. -/
def extract (writer : CatalogWriter) (config : Config) : RunM Summary := do
  if let some e := config.validate then throw e
  let registry ← orFail (config.registry.mapError (·.message))
  let ignore ← orFail (Glob.compileIgnores config.ignore)
  let fromPackages ← config.packagePaths.mapM
    (packageOccurrences registry ignore config.recursive)
  let fromTemplates ← config.templatePaths.mapM fun root =>
    templateOccurrences root config.templateExtensions ignore
  let goUnits := fromPackages.flatMap (·.2)
  let templateUnits := fromTemplates.flatten
  let store := (goUnits ++ templateUnits).foldl Store.add {}
  let catalogs ← materialize writer store config.output config.languages
  return { packages := (fromPackages.map (·.1)).foldl (· + ·) 0, goUnits := goUnits.length,
           templateUnits := templateUnits.length,
           domains := store.domains.map fun d => (d, (store.occurrencesOf d).length),
           catalogs := catalogs }

end Localize.Run
