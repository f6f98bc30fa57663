import Localize.Store
import Localize.Signature
import Localize.Parsing.Tree
import Localize.Go.Scope

/-! # Message calls in Go source

Extraction walks a file's syntax tree in source order, a call before the calls inside its
callee and arguments. A call is a message call when one of its callee's identities has a
signature in the registry (the first identity with one decides). Its arguments (the named
children of the argument list, comments left out) are matched to the signature's roles by
position: every role needs an argument, and every argument in a role other than `skip` must
be a string literal, whose text is taken as written. A call that fails either test gives
nothing. The position of a message is the line of its argument list.

Scopes follow the tree: a function opens one for its receiver and parameters, and every
block opens one inside it. A short variable declaration or `var` declaration inside a function
declares its names, with the types found for them, after its own parts are walked.
-/

namespace Localize.Go

open Localize.Parsing

/-- What a walk of one file needs besides the environment: the registry, and the path that
positions are given in. -/
structure FileCtx where
  registry : Registry
  path : String

/-- The parts of a message read from a call's arguments. -/
structure CallFields where
  singular : String := ""
  plural : String := ""
  context : String := ""
  domain : String := ""

/-- The fields with `text` in the slot of `role`. -/
def CallFields.put (fields : CallFields) (role : Role) (text : String) : CallFields :=
  match role with
  | .singular => { fields with singular := text }
  | .plural => { fields with plural := text }
  | .context => { fields with context := text }
  | .domain => { fields with domain := text }
  | .skip => fields

/-- The text of a string literal node without its quotes, escapes kept as written, or the fault
of a cut inside a character. -/
def stringLiteral (source : String) (n : Node) : Except String (Option String) :=
  if n.kind == "interpreted_string_literal" || n.kind == "raw_string_literal" then
    let text := n.text source
    if text.utf8ByteSize ≥ 2 then some <$> stripQuotes text else pure none
  else pure none

/-- Matches arguments to roles by position. Answers `none` when an argument is missing, or
when one in a role other than `skip` is not a string literal; fails with the fault of the first
literal that cannot be cut out of its quotes. Arguments past the last role are ignored. -/
def scanArguments (source : String) :
    List Role → List Node → CallFields → Except String (Option CallFields)
  | [], _, fields => pure (some fields)
  | _ :: _, [], _ => pure none
  | .skip :: roles, _ :: args, fields => scanArguments source roles args fields
  | role :: roles, arg :: args, fields => do
    match ← stringLiteral source arg with
    | some text => scanArguments source roles args (fields.put role text)
    | none => pure none

/-- The roles of a call's arguments, when its callee is a message function. -/
def dispatch (ctx : FileCtx) (env : TypeEnv) (function : Node) : Option (List Role) :=
  (env.calleeCandidates function).findSome? fun c => ctx.registry.lookup c.fullName c.name

/-- The occurrence a call gives, if it is a message call with matching arguments, or the fault
of a literal among them. -/
def callOccurrence (ctx : FileCtx) (env : TypeEnv) (call : Node) : Except String (Option Occurrence) :=
  match (call.childByField "function").bind (dispatch ctx env), call.childByField "arguments" with
  | some roles, some arguments => do
    let args := arguments.namedChildren.filter (·.kind != "comment")
    let found ← scanArguments env.source roles args {}
    return found.map fun f =>
      { position := positionText ctx.path (arguments.start.row + 1), singular := f.singular,
        plural := f.plural, context := f.context, domain := f.domain }
  | _, _ => pure none

/-- What a call gives the walk: its occurrence, or the fault that stops the walk there. -/
def callFindings (ctx : FileCtx) (env : TypeEnv) (call : Node) : List (Except String Occurrence) :=
  match callOccurrence ctx env call with
  | .ok found => found.toList.map .ok
  | .error fault => [.error fault]

/-- What the walk finds under a node, in source order, and the environment after it: the
occurrences of message calls, and the faults of literals it cannot cut (the first of which stops
the extraction). Functions and blocks open a scope that closes after them; declarations inside a
function declare their names after their parts are walked; a message call comes before what its
parts hold. -/
def visit (ctx : FileCtx) (env : TypeEnv) (node : Node) :
    TypeEnv × List (Except String Occurrence) :=
  let walk := fun (env : TypeEnv) =>
    let (env, found) := node.namedChildren.attach.foldl
      (fun (acc : TypeEnv × List (List (Except String Occurrence))) ⟨child, _⟩ =>
        let (env, found) := visit ctx acc.1 child
        (env, found :: acc.2)) (env, [])
    (env, found.reverse.flatten)
  match node.kind with
  | "function_declaration" | "method_declaration" | "func_literal" =>
    let inner := ["receiver", "parameters"].foldl (fun e field =>
      match node.childByField field with
      | some list => e.declareParameters list
      | none => e) env.push
    let (inner, found) := walk inner
    (inner.pop, found)
  | "block" =>
    let (inner, found) := walk env.push
    (inner.pop, found)
  | "short_var_declaration" | "var_declaration" =>
    let (env, found) := walk env
    (if env.inFunction then env.declareStatement node else env, found)
  | "call_expression" =>
    let here := callFindings ctx env node
    let (env, found) := walk env
    (env, here ++ found)
  | _ => walk env
termination_by sizeOf node
decreasing_by exact Node.sizeOf_lt_of_mem_namedChildren (by assumption)

/-- The message occurrences of one file of a package, given its syntax tree and source
text, or the first fault the walk meets; positions use `path`. -/
def fileOccurrences (root : Node) (source : String) (scope : PackageScope)
    (registry : Registry) (path : String) : Except String (List Occurrence) :=
  (visit ⟨registry, path⟩ { package := scope, imports := Imports.table root source, source }
    root).2.mapM id

end Localize.Go
