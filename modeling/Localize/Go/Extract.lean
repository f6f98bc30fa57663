import Localize.Path
import Localize.Parsing.Glr
import Localize.Go.Lexer
import Localize.Go.Calls

/-! # Extraction from a Go package

A Go source text is parsed with the stored Go grammar. A package is a list of files read in
order, with the import path they are known by. Its messages are those of each file in turn;
positions name the files relative to a base directory. Extraction stops at the first literal,
of an import path or of a message argument, that cannot be cut out of its quotes.
-/

/-! ## Parsing Go

The Go language for the parser: the stored table of the Go grammar, its symbols, and the Go
lexer; and the syntax tree of a Go source text.
-/

namespace Localize.Go

open Localize.Parsing

/-- The Go parse table. -/
def goTable : Table :=
  Table.decode Grammar.tokenCount (Grammar.symbolNames.size - Grammar.tokenCount)
    (decodeNumbers Grammar.encodedTable)

/-- The Go symbols: names and flags, and the production shapes. -/
def goSymbols : Symbols :=
  let flag := fun (flags : String) (i : Nat) => flags.toList.getD i '0' == '1'
  ⟨Grammar.symbolNames.mapIdx fun i name =>
      ⟨name, flag Grammar.visibleFlags i, flag Grammar.namedFlags i⟩,
    Grammar.productionShapes⟩

/-- The Go language. -/
def goLanguage : Language :=
  { table := goTable, symbols := goSymbols, keywordCapture := Grammar.identifier,
    lex := lex goTable }

/-- The syntax tree of a Go source text. -/
def parseSource (source : String) : Node :=
  (goLanguage.parse source).toNode goSymbols

/-! ## Packages -/

/-- One Go source file: its path, its source text and its syntax tree. -/
structure GoFile where
  path : String
  source : String
  tree : Node

/-- The file at `path` with source text `source`. -/
def GoFile.read (path source : String) : GoFile := ⟨path, source, parseSource source⟩

/-- A Go package: its import path and its files. -/
structure Package where
  importPath : String
  files : List GoFile

/-- The message occurrences of every file of a package, in file order, or the first fault met.
Collecting the package's scope reads every file's imports first, so a fault in an import path
comes before any in a call. Each file sees the names its package declares at top level;
positions are relative to `base`. -/
def Package.occurrences (pkg : Package) (registry : Registry) (base : String) :
    Except String (List Occurrence) := do
  let _ ← pkg.files.mapM fun file => Imports.read file.tree file.source
  let scope := PackageScope.collect pkg.importPath (pkg.files.map fun f => (f.tree, f.source))
  let found ← pkg.files.mapM fun file =>
    fileOccurrences file.tree file.source scope registry (Path.displayRelative file.path base)
  return found.flatten

end Localize.Go
