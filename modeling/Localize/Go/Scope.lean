import Localize.Parsing.Tree
import Localize.Go.Package

/-! # Names, scopes and types of Go calls

There is no type checker here: a callee's identity is recovered from the file's imports, the
variables in scope with the types they were declared or initialized with, and a few rules for
the values that message helpers come from (composite literals, `&T{}`, `new(T)` and `NewT()`
constructors).

A variable's type is known, unknown (declared, but its type could not be found) or the
variable is not in scope. Scopes nest; the innermost declaration of a name wins, and
package-level variables with a known type come last. A local variable hides an import of the
same name.
-/

namespace Localize.Go

open Localize.Parsing

/-- A named type of a package, possibly behind a pointer. -/
structure NamedType where
  package : String
  name : String
  pointer : Bool := false
deriving Repr, DecidableEq

/-- The same type behind a pointer. -/
def NamedType.toPointer (t : NamedType) : NamedType := { t with pointer := true }

/-- The full names of method `method` on the type: the pointer receiver form first. -/
def NamedType.methodNames (t : NamedType) (method : String) : List String :=
  ["(*" ++ t.package ++ "." ++ t.name ++ ")." ++ method,
   "(" ++ t.package ++ "." ++ t.name ++ ")." ++ method]

/-- One identity a callee may have: its full name and its bare name. -/
structure Callee where
  fullName : String
  name : String
deriving Repr, DecidableEq

/-- What the whole package declares at top level: its import path, its variables of known
type and its functions. -/
structure PackageScope where
  importPath : String
  globals : List (String × NamedType) := []
  functions : List String := []
deriving Repr

/-- The known type of a package-level variable; a later declaration wins. -/
def PackageScope.varType? (p : PackageScope) (name : String) : Option NamedType :=
  (p.globals.reverse.find? (·.1 == name)).map (·.2)

/-- The names of Go's predeclared types. -/
def predeclaredTypes : List String :=
  ["any", "bool", "byte", "comparable", "complex64", "complex128", "error", "float32",
   "float64", "int", "int8", "int16", "int32", "int64", "rune", "string", "uint", "uint8",
   "uint16", "uint32", "uint64", "uintptr"]

/-- One scope: names declared in it, each with its type when known; later entries win. -/
abbrev Scope := List (String × Option NamedType)

/-- What a name means where a call stands: the package, the file's imports and the scopes of
the enclosing functions and blocks, innermost first. -/
structure TypeEnv where
  package : PackageScope
  imports : Imports
  /-- The source text of the file, which the nodes point into. -/
  source : String
  scopes : List Scope := []

namespace TypeEnv

/-- Whether the environment is inside a function. -/
def inFunction (env : TypeEnv) : Bool := !env.scopes.isEmpty

/-- The environment with a new innermost scope. -/
def push (env : TypeEnv) : TypeEnv := { env with scopes := [] :: env.scopes }

/-- The environment without its innermost scope. -/
def pop (env : TypeEnv) : TypeEnv := { env with scopes := env.scopes.tail }

/-- The source text of a node. -/
def text (env : TypeEnv) (n : Node) : String := n.text env.source

/-- Declares `name` in the innermost scope; `_` declares nothing, and nothing is declared
outside functions. -/
def declare (env : TypeEnv) (name : String) (type : Option NamedType) : TypeEnv :=
  if name == "_" then env
  else match env.scopes with
    | [] => env
    | s :: rest => { env with scopes := ((name, type) :: s) :: rest }

/-- `some t` when `name` is a variable in scope, with its type `t` if known; the innermost
declaration wins, then package-level variables of known type. -/
def varType? (env : TypeEnv) (name : String) : Option (Option NamedType) :=
  match env.scopes.findSome? fun s => (s.find? (·.1 == name)).map (·.2) with
  | some t => some t
  | none => (env.package.varType? name).map some

/-- A type `name` of the package itself, when the package has an import path. -/
def ownType (env : TypeEnv) (name : String) : Option NamedType :=
  if env.package.importPath.isEmpty then none else some ⟨env.package.importPath, name, false⟩

/-- The type `pkg.name`, when `pkg` is an imported package and no variable. -/
def qualified (env : TypeEnv) (pkg name : String) : Option NamedType :=
  if (env.varType? pkg).isSome then none
  else (env.imports.resolve pkg).map fun path => ⟨path, name, false⟩

/-- The named type a type node stands for: a type name of the package (no predeclared
one), a package-qualified name, or one of these behind a pointer, type arguments or
parentheses. -/
def typeOf (env : TypeEnv) (n : Node) : Option NamedType :=
  match n.kind with
  | "pointer_type" =>
    match _h : n.firstNamed with
    | some inner => (env.typeOf inner).map NamedType.toPointer
    | none => none
  | "type_identifier" | "identifier" =>
    let name := env.text n
    if predeclaredTypes.contains name then none else env.ownType name
  | "qualified_type" =>
    match n.childByField "package", n.childByField "name" with
    | some pkg, some name => env.qualified (env.text pkg) (env.text name)
    | _, _ => none
  | "selector_expression" =>
    match n.childByField "operand", n.childByField "field" with
    | some operand, some field =>
      if operand.kind != "identifier" then none
      else env.qualified (env.text operand) (env.text field)
    | _, _ => none
  | "generic_type" =>
    match _h : n.childByField "type" with
    | some base => env.typeOf base
    | none => none
  | "parenthesized_type" =>
    match _h : n.firstNamed with
    | some inner => env.typeOf inner
    | none => none
  | _ => none
termination_by sizeOf n
decreasing_by
  all_goals first
    | exact Node.sizeOf_lt_of_firstNamed (by assumption)
    | exact Node.sizeOf_lt_of_childByField (by assumption)

/-- The type name a constructor `NewT` returns: `T`, when it starts with an ASCII capital. -/
def constructorType (name : String) : Option String :=
  match name.toList with
  | 'N' :: 'e' :: 'w' :: rest@(c :: _) =>
    if 'A' ≤ c && c ≤ 'Z' then some (String.ofList rest) else none
  | _ => none

/-- The type a call returns, as far as the rules find it: `new(T)` gives a pointer to `T`,
and a constructor `NewT` of the package, of the only dot-imported package, or of an imported
package gives a pointer to its `T`. A callee that is a variable gives nothing. -/
def callResultType (env : TypeEnv) (call : Node) : Option NamedType := do
  let function ← call.childByField "function"
  match function.kind with
  | "identifier" =>
    let name := env.text function
    if (env.varType? name).isSome then none
    else if name == "new" then
      let args ← call.childByField "arguments"
      let first ← args.firstNamed
      (env.typeOf first).map NamedType.toPointer
    else
      let typeName ← constructorType name
      if env.package.functions.contains name then
        (env.ownType typeName).map NamedType.toPointer
      else
        match env.imports.dots with
        | [only] => some ⟨only, typeName, true⟩
        | _ => (env.ownType typeName).map NamedType.toPointer
  | "selector_expression" =>
    let operand ← function.childByField "operand"
    let field ← function.childByField "field"
    if operand.kind != "identifier" then none
    else
      let typeName ← constructorType (env.text field)
      (env.qualified (env.text operand) typeName).map NamedType.toPointer
  | _ => none

/-- The static type of an expression, as far as the rules find it: the known type of a
variable, the type of a composite literal, a pointer to the type of `&x`, the result type of
a call, through parentheses. -/
def exprType (env : TypeEnv) (n : Node) : Option NamedType :=
  match n.kind with
  | "identifier" => (env.varType? (env.text n)).join
  | "parenthesized_expression" =>
    match _h : n.firstNamed with
    | some inner => env.exprType inner
    | none => none
  | "composite_literal" => (n.childByField "type").bind env.typeOf
  | "unary_expression" =>
    match n.childByField "operator" with
    | some op =>
      if env.text op != "&" then none
      else
        match _h : n.childByField "operand" with
        | some operand => (env.exprType operand).map NamedType.toPointer
        | none => none
    | none => none
  | "call_expression" => env.callResultType n
  | _ => none
termination_by sizeOf n
decreasing_by
  all_goals first
    | exact Node.sizeOf_lt_of_firstNamed (by assumption)
    | exact Node.sizeOf_lt_of_childByField (by assumption)

/-- The identities of the methods `method` of a type. -/
def methodCallees (t : NamedType) (method : String) : List Callee :=
  (t.methodNames method).map fun full => ⟨full, method⟩

/-- The identities the callee expression of a call may have. A plain name is a function of
the package itself, or else of the dot-imported packages; a selector is a method of a
variable's or an expression's type, or a function of an imported package. A name that is a
variable has no identity. -/
def calleeCandidates (env : TypeEnv) (function : Node) : List Callee :=
  match function.kind with
  | "identifier" =>
    let name := env.text function
    if (env.varType? name).isSome then []
    else if env.package.functions.contains name || env.imports.dots.isEmpty then
      if env.package.importPath.isEmpty then []
      else [⟨env.package.importPath ++ "." ++ name, name⟩]
    else env.imports.dots.map fun path => ⟨path ++ "." ++ name, name⟩
  | "selector_expression" =>
    match function.childByField "operand", function.childByField "field" with
    | some operand, some field =>
      let method := env.text field
      if operand.kind == "identifier" then
        let name := env.text operand
        match env.varType? name with
        | some (some t) => methodCallees t method
        | some none => []
        | none =>
          match env.imports.resolve name with
          | some path => [⟨path ++ "." ++ method, method⟩]
          | none => []
      else
        match env.exprType operand with
        | some t => methodCallees t method
        | none => []
    | _, _ => []
  | "parenthesized_expression" =>
    match _h : function.firstNamed with
    | some inner => env.calleeCandidates inner
    | none => []
  | _ => []
termination_by sizeOf function
decreasing_by exact Node.sizeOf_lt_of_firstNamed (by assumption)

/-- The names and types that a list of names receives from a list of values. The names are
the `name` fields of a `var` spec, or else the identifiers among the named children; the
values are the named children that are no comments. A name gets the declared type when there
is one; otherwise the type of the value in the same position when the counts agree, or, for
the first name only, of the first value. -/
def assign (env : TypeEnv) (names : Node) (values : Option Node)
    (declared : Option NamedType) : List (String × Option NamedType) :=
  let names : List Node :=
    if names.kind == "var_spec" then names.childrenByField "name"
    else names.namedChildren.filter fun c => c.kind == "identifier"
  let values : List Node := match values with
    | some list => list.namedChildren.filter fun c => c.kind != "comment"
    | none => []
  names.zipIdx.map fun (name, i) =>
    let type := match declared with
      | some t => some t
      | none =>
        let value :=
          if values.length == names.length then values[i]?
          else if i == 0 then values.head?
          else none
        value.bind env.exprType
    (env.text name, type)

/-- The names and types that a `var` declaration introduces, in order, also those of
parenthesized spec lists. -/
def varDeclaration (env : TypeEnv) (n : Node) : List (String × Option NamedType) :=
  n.namedChildren.attach.flatMap fun ⟨child, _⟩ =>
    match child.kind with
    | "var_spec" =>
      env.assign child (child.childByField "value") ((child.childByField "type").bind env.typeOf)
    | "var_spec_list" => env.varDeclaration child
    | _ => []
termination_by sizeOf n
decreasing_by exact Node.sizeOf_lt_of_mem_namedChildren (by assumption)

/-- Declares all the given bindings, in order. -/
def declareAll (env : TypeEnv) (bindings : List (String × Option NamedType)) : TypeEnv :=
  bindings.foldl (fun e (n, t) => e.declare n t) env

/-- Declares what a short variable declaration or a `var` declaration introduces. -/
def declareStatement (env : TypeEnv) (n : Node) : TypeEnv :=
  env.declareAll <| match n.kind with
    | "short_var_declaration" =>
      match n.childByField "left", n.childByField "right" with
      | some left, some right => env.assign left (some right) none
      | _, _ => []
    | "var_declaration" => env.varDeclaration n
    | _ => []

/-- Declares the parameters of a parameter list (or receiver), in order: each declaration's
type is read in the environment that holds the parameters before it; variadic ones get no
type. -/
def declareParameters (env : TypeEnv) (list : Node) : TypeEnv :=
  list.namedChildren.foldl (fun env param =>
    let type? : Option (Option NamedType) := match param.kind with
      | "parameter_declaration" => some ((param.childByField "type").bind env.typeOf)
      | "variadic_parameter_declaration" => some none
      | _ => none
    match type? with
    | some type => (param.childrenByField "name").foldl (fun e name => e.declare (env.text name) type) env
    | none => env) env

end TypeEnv

/-- The package-level variables of known type that a top-level `var` declaration introduces, in
order, read with the package scope collected so far and the imports of its file. -/
def PackageScope.typedVariables (scope : PackageScope) (imports : Imports) (source : String)
    (node : Node) : List (String × NamedType) :=
  (({ package := scope, imports, source } : TypeEnv).varDeclaration node).filterMap
    fun (n, t) => t.map (n, ·)

/-- Takes a top-level declaration of a file into the package scope: a function's name, or the
variables of known type of a `var` declaration. -/
def PackageScope.addDeclaration (scope : PackageScope) (imports : Imports) (source : String)
    (node : Node) : PackageScope :=
  match node.kind with
  | "function_declaration" =>
    match node.childByField "name" with
    | some name => { scope with functions := scope.functions ++ [name.text source] }
    | none => scope
  | "var_declaration" => { scope with globals := scope.globals ++ scope.typedVariables imports source node }
  | _ => scope

/-- Collects the package scope from the files of a package (each a syntax tree and its
source text), in order: top-level function names, and the top-level variables whose type is
found, each `var` declaration read with the scope collected before it and its own file's
imports. -/
def PackageScope.collect (importPath : String) (files : List (Node × String)) : PackageScope :=
  files.foldl (fun scope (root, source) =>
    let imports := Imports.table root source
    root.namedChildren.foldl (fun scope node => scope.addDeclaration imports source node) scope)
    { importPath := importPath }

end Localize.Go
