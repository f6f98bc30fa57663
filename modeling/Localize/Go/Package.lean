import Localize.Text.Blank
import Localize.Text.Bytes
import Localize.Text.Find
import Localize.Parsing.Tree

/-! # Go packages and imports

How a Go file names the packages it imports. An import without a name is known by the
package's default name: the last segment of its path, skipping a major-version segment
(`v2`) and dropping a version suffix (`yaml.v3`). A dot import makes the package's names
usable without qualifier; a blank import names nothing.

A module's path is read from its `go.mod` file: the first line `module <path>`.

An import path is its literal's text without the first and the last byte. A literal whose
closing quote is missing and whose last character takes more than one byte cannot be cut so:
reading the imports then stops with the fault of the cut.
-/

namespace Localize.Go

open Localize.Text Localize.Parsing

/-- Whether a path segment is a major version: `v` followed by decimal digits. -/
def isVersion (segment : String) : Bool :=
  match segment.toList with
  | 'v' :: digits@(_ :: _) => digits.all fun c => '0' ≤ c && c ≤ '9'
  | _ => false

/-- The name a package is known by when imported without a name. -/
def defaultPackageName (importPath : String) : String :=
  let segments := (importPath.splitOn "/").reverse
  let last := segments.headD importPath
  let last :=
    if isVersion last then
      match segments with
      | _ :: previous :: _ => previous
      | _ => last
    else last
  let parts := last.splitOn "."
  match parts.reverse with
  | version :: rest@(_ :: _) =>
    if isVersion version then ".".intercalate rest.reverse else last
  | _ => last

/-- The module path of a `go.mod` text: from the first line that reads `module` and a blank,
the text before any `//`, trimmed and without surrounding quotes or backquotes. -/
def modulePath (goMod : String) : Option String :=
  (lines goMod.toList).findSome? fun line =>
    match afterPrefix? "module".toList (trimBlank line) with
    | some rest@(c :: _) =>
      if isBlank c then
        let beforeComment := match breakOn ['/', '/'] rest with
          | some (before, _) => before
          | none => rest
        let trimmed := trimBlank beforeComment
        let isQuote := fun (d : Char) => d == '"' || d == '`'
        let path := ((trimmed.dropWhile isQuote).reverse.dropWhile isQuote).reverse
        if path.isEmpty then none else some (String.ofList path)
      else none
    | _ => none

/-- The imports of one file: names bound to package paths, and the dot-imported paths. -/
structure Imports where
  aliases : List (String × String) := []
  dots : List String := []
deriving Repr

/-- The path a name is bound to; a later binding of the same name wins. -/
def Imports.resolve (imports : Imports) (name : String) : Option String :=
  (imports.aliases.reverse.find? (·.1 == name)).map (·.2)

/-- The text between the first and the last byte of a string literal's text: the literal
without its quotes (an unclosed literal loses its last character instead); texts shorter than
two bytes stay as they are. A cut inside a character fails with its fault (`sliceBytes`). -/
def stripQuotes (text : String) : Except String String :=
  if text.utf8ByteSize ≥ 2 then sliceBytes text 1 (text.utf8ByteSize - 1) else .ok text

/-- Takes an import spec into the table: its path, under its name, or the default name of
the package when it has none. -/
def Imports.readSpec (imports : Imports) (source : String) (spec : Node) : Except String Imports :=
  match spec.childByField "path" with
  | none => pure imports
  | some path => do
    let path ← stripQuotes (path.text source)
    pure <| match spec.childByField "name" with
      | some name =>
        if name.kind == "dot" then { imports with dots := imports.dots ++ [path] }
        else if name.kind == "blank_identifier" then imports
        else { imports with aliases := imports.aliases ++ [(name.text source, path)] }
      | none =>
        { imports with aliases := imports.aliases ++ [(defaultPackageName path, path)] }

/-- Takes the specs of an import declaration into the table, in order, also those of
parenthesized spec lists. -/
def Imports.readDeclaration (imports : Imports) (source : String) (decl : Node) :
    Except String Imports :=
  decl.namedChildren.attach.foldlM (fun imports ⟨child, _⟩ =>
    match child.kind with
    | "import_spec" => imports.readSpec source child
    | "import_spec_list" => imports.readDeclaration source child
    | _ => pure imports) imports
termination_by sizeOf decl
decreasing_by exact Node.sizeOf_lt_of_mem_namedChildren (by assumption)

/-- The imports of a source file, from the import declarations at its top level in order. -/
def Imports.read (root : Node) (source : String) : Except String Imports :=
  root.namedChildren.foldlM (fun imports decl =>
    if decl.kind == "import_declaration" then imports.readDeclaration source decl
    else pure imports) {}

/-- The import table of a file whose imports read, and the empty table for one whose do not.
A package's scope and its files' walks take their tables from here once every file's imports
have read (`Package.occurrences`), so the empty table is never used. -/
def Imports.table (root : Node) (source : String) : Imports :=
  match Imports.read root source with
  | .ok imports => imports
  | .error _ => {}

end Localize.Go
