import Localize.Text.Find

/-! # Paths as shown in catalogs

Positions name files by path. A path is shown with `/` separators and without a leading `./`.
A path below a base directory is shown relative to it. "Below" is decided on components: a
path text is read as an optional root (a leading `/`), an optional current-directory mark (a
leading `.` alone or before a `/`), then the names between slashes, where empty names and `.`
are skipped; `..` is a name like any other. So `a//b/./c/` and `a/b/c` have the same
components, and `/work/app` is not below `/work/ap`.
-/

namespace Localize.Path

open Localize.Text

/-- One component of a path. -/
inductive Component where
  | root
  | current
  | name (text : String)
deriving Repr, DecidableEq

/-- Whether a piece between slashes is skipped when reading components. -/
def isSkipped (piece : List Char) : Bool := piece.isEmpty || piece == ['.']

/-- The components of the part after any root and current-directory mark, each with the
text that follows it. -/
def bodyComponents (body : List Char) : List (Component × List Char) :=
  let pieces := body.splitOn '/'
  pieces.zipIdx.filterMap fun (piece, i) =>
    if isSkipped piece then none
    else some (.name (String.ofList piece), ['/'].intercalate (pieces.drop (i + 1)))

/-- Whether a path text starts with a current-directory mark. -/
def hasCurrentMark (p : List Char) : Bool :=
  match p with
  | ['.'] => true
  | '.' :: '/' :: _ => true
  | _ => false

/-- The components of a path text, each with the text that follows it. -/
def components (p : List Char) : List (Component × List Char) :=
  match p with
  | '/' :: rest => (.root, rest) :: bodyComponents rest
  | _ =>
    if hasCurrentMark p then (.current, p.drop 1) :: bodyComponents (p.drop 1)
    else bodyComponents p

/-- The text without the empty and `.` pieces that start it. -/
def trimFront (text : List Char) : List Char :=
  ['/'].intercalate ((text.splitOn '/').dropWhile isSkipped)

/-- The text without the empty and `.` pieces that end it. -/
def trimBack (text : List Char) : List Char :=
  ['/'].intercalate (((text.splitOn '/').reverse.dropWhile isSkipped).reverse)

/-- A whole path text without the empty and `.` pieces that end it; a root or current mark at
its start stays. -/
def trimWhole (p : List Char) : List Char :=
  match p with
  | '/' :: rest => '/' :: trimBack rest
  | _ => if hasCurrentMark p then '.' :: trimBack (p.drop 1) else trimBack p

/-- The text of `path` after the components of `base`, when they start it. -/
def stripBase? (path base : List Char) : Option (List Char) :=
  let ofPath := components path
  let ofBase := (components base).map (·.1)
  if ofBase.isEmpty then some (trimWhole path)
  else if (ofPath.map (·.1)).take ofBase.length == ofBase then
    match ofPath[ofBase.length - 1]? with
    | some (_, rest) => some (trimBack (trimFront rest))
    | none => none
  else none

/-- A path as shown: `/` separators and no leading `./`. -/
def display (path : String) : String :=
  let text := path.toList.map fun c => if c = '\\' then '/' else c
  match afterPrefix? ['.', '/'] text with
  | some rest => String.ofList rest
  | none => String.ofList text

/-- A path as shown relative to `base` when it lies below it, otherwise as shown whole. -/
def displayRelative (path base : String) : String :=
  match stripBase? path.toList base.toList with
  | some rest => display (String.ofList rest)
  | none => display path

/-- The names of a path's components, without its root or current-directory mark. -/
def names (path : String) : List String :=
  (components path.toList).filterMap fun (c, _) => match c with
    | .name n => some n
    | _ => none

/-- Whether a path text starts at the root. -/
def isAbsolute (path : String) : Bool := path.startsWith "/"

/-- `tail` appended to `head`: an absolute `tail` replaces `head`, and a separator goes
between them unless `head` is empty or already ends with one. -/
def join (head tail : String) : String :=
  if isAbsolute tail then tail
  else if head.isEmpty || head.endsWith "/" then head ++ tail
  else head ++ "/" ++ tail

/-- The last component of a path when it is a name. -/
def fileName? (path : String) : Option String :=
  match (components path.toList).getLast? with
  | some (.name n, _) => if n = ".." then none else some n
  | _ => none

/-- The extension of a file name: what follows its last dot, unless the dot starts the name. -/
def extension? (name : String) : Option String :=
  if name = ".." then none
  else match (name.splitOn ".").reverse with
    | ext :: before@(_ :: _) =>
      let stem := ".".intercalate before.reverse
      if stem.isEmpty then none else some ext
    | _ => none

/-- Whether a path text ends in a way that requires a directory: a slash or a `.` name. -/
def endsAsDirectory (path : String) : Bool :=
  path.endsWith "/" || path.endsWith "/." || path = "."

/-- A relative path made absolute below `current`: a leading `./` and `.` names dropped,
slashes collapsed, a trailing slash kept. -/
def absoluteIn (current path : String) : String :=
  let joined := (names path).foldl join current
  if path.endsWith "/" then join joined "" else joined

end Localize.Path
