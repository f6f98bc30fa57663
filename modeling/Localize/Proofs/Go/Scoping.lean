import Localize.Proofs.Go.Walk

/-! # Block scoping of the Go walk

The walk keeps a stack of scopes. Only function declarations, method declarations, function
literals and blocks open one, a function's scope starting with its receiver and parameters.
A short variable declaration or a `var` declaration inside a function adds its names to the
innermost scope once the statement is done: a declaration in the header of an `if`, `for`
or `switch` statement lands in the enclosing block, and a range clause declares nothing.

`namesAt` reads the names in scope at a node off the syntax tree alone, and `envAt_names`
shows that the walk's scopes hold exactly those names. How a callee named by an identifier
resolves from them is `callee_resolution_follows_block_scopes`; the loop `rangeTree` shows
a name bound by a range clause resolving as the imported package of that name.
-/

namespace Localize.Parsing

/-- The node at a path of named-child indices. -/
def Node.at? (node : Node) : List Nat → Option Node
  | [] => some node
  | i :: path => node.namedChildren[i]?.bind (·.at? path)

end Localize.Parsing

namespace Localize.Go

open Localize.Parsing

/-- The names of an environment's scopes, innermost first, the latest first in each. -/
def TypeEnv.localNames (env : TypeEnv) : List (List String) := env.scopes.map (·.map (·.1))

/-- Names as declaring takes them: `_` declares nothing. -/
def declarable (names : List String) : List String := names.filter (· != "_")

/-- Adds names, in order, to the innermost scope; outside every scope they are dropped. -/
def addNames (names : List String) : List (List String) → List (List String)
  | [] => []
  | s :: rest => (names.reverse ++ s) :: rest

@[simp] theorem addNames_nil (scopes : List (List String)) : addNames [] scopes = scopes := by
  cases scopes <;> simp [addNames]

theorem addNames_append (first second : List String) (scopes : List (List String)) :
    addNames second (addNames first scopes) = addNames (first ++ second) scopes := by
  cases scopes <;> simp [addNames]

theorem localNames_declare (env : TypeEnv) (name : String) (type : Option NamedType) :
    (env.declare name type).localNames = addNames (declarable [name]) env.localNames := by
  unfold TypeEnv.declare
  by_cases blank : name = "_"
  · simp [blank, declarable]
  · cases scopes : env.scopes <;> simp [blank, scopes, declarable, TypeEnv.localNames, addNames]

theorem localNames_declareAll (env : TypeEnv) (bindings : List (String × Option NamedType)) :
    (env.declareAll bindings).localNames =
      addNames (declarable (bindings.map (·.1))) env.localNames := by
  induction bindings generalizing env with
  | nil => simp [TypeEnv.declareAll, declarable]
  | cons b bs ih =>
    simp only [TypeEnv.declareAll, List.foldl_cons] at ih ⊢
    rw [ih, localNames_declare, addNames_append]
    by_cases blank : b.1 = "_" <;> simp [declarable, blank]

/-! ## What an environment keeps -/

/-- Two environments that differ in their scopes at most. -/
def SameFile (env env' : TypeEnv) : Prop :=
  env'.package = env.package ∧ env'.imports = env.imports ∧ env'.source = env.source

theorem SameFile.refl (env : TypeEnv) : SameFile env env := ⟨rfl, rfl, rfl⟩

theorem SameFile.trans {e₁ e₂ e₃ : TypeEnv} (first : SameFile e₁ e₂)
    (second : SameFile e₂ e₃) :
    SameFile e₁ e₃ :=
  ⟨second.1.trans first.1, second.2.1.trans first.2.1, second.2.2.trans first.2.2⟩

/-- The environment at package level: the same file with no scope open. -/
theorem SameFile.packageLevel {env env' : TypeEnv} (same : SameFile env env') :
    { env' with scopes := [] } = { env with scopes := [] } := by
  obtain ⟨package, imports, source⟩ := same
  cases env
  cases env'
  simp_all

theorem sameFile_declare (env : TypeEnv) (name : String) (type : Option NamedType) :
    SameFile env (env.declare name type) := by
  unfold TypeEnv.declare
  split
  · exact SameFile.refl env
  · split <;> exact ⟨rfl, rfl, rfl⟩

theorem SameFile.foldl {α : Type} (f : TypeEnv → α → TypeEnv)
    (step : ∀ e x, SameFile e (f e x)) (xs : List α) (env : TypeEnv) :
    SameFile env (xs.foldl f env) := by
  induction xs generalizing env with
  | nil => exact SameFile.refl env
  | cons x xs ih => exact (step env x).trans (ih _)

theorem sameFile_declareAll (env : TypeEnv) (bindings : List (String × Option NamedType)) :
    SameFile env (env.declareAll bindings) := by
  refine SameFile.foldl _ (fun e b => ?_) bindings env
  exact sameFile_declare e b.1 b.2

theorem sameFile_declareParameters (env : TypeEnv) (list : Node) :
    SameFile env (env.declareParameters list) := by
  refine SameFile.foldl _ (fun e param => ?_) _ env
  -- a parameter declaration, plain or variadic, declares its names; anything else nothing
  split <;> dsimp only
  · exact SameFile.foldl _ (fun e' name => sameFile_declare e' _ _) _ e
  · exact SameFile.foldl _ (fun e' name => sameFile_declare e' _ _) _ e
  · exact SameFile.refl e

theorem foldl_declare (env : TypeEnv) (names : List Node) (name : Node → String)
    (type : Option NamedType) :
    names.foldl (fun e n => e.declare (name n) type) env =
      env.declareAll (names.map fun n => (name n, type)) := by
  simp [TypeEnv.declareAll, List.foldl_map]

/-- The names a parameter list (or receiver) declares, in order. -/
def parameterNames (source : String) (list : Node) : List String :=
  declarable <| list.namedChildren.flatMap fun param =>
    if param.kind = "parameter_declaration" ∨ param.kind = "variadic_parameter_declaration" then
      (param.childrenByField "name").map (·.text source)
    else []

theorem localNames_declareParameters (env : TypeEnv) (list : Node) :
    (env.declareParameters list).localNames =
      addNames (parameterNames env.source list) env.localNames := by
  unfold TypeEnv.declareParameters parameterNames
  generalize list.namedChildren = params
  induction params generalizing env with
  | nil => simp [declarable]
  | cons param params ih =>
    simp only [List.foldl_cons, List.flatMap_cons, declarable, List.filter_append]
    -- the parameter's kind decides whether it declares its names
    split
    next type chosen =>
      rw [ih, foldl_declare, (sameFile_declareAll _ _).2.2, localNames_declareAll, addNames_append]
      split at chosen <;> simp_all [declarable, Function.comp_def, TypeEnv.text]
    next chosen =>
      rw [ih]
      split at chosen <;> simp_all [declarable]

/-! ## The names of declarations -/

/-- The name nodes of a binding list: the `name` fields of a `var` spec, or the identifiers
among the named children. -/
def bindingNodes (names : Node) : List Node :=
  if names.kind == "var_spec" then names.childrenByField "name"
  else names.namedChildren.filter fun c => c.kind == "identifier"

theorem names_assign (env : TypeEnv) (names : Node) (values : Option Node)
    (declared : Option NamedType) :
    (env.assign names values declared).map (·.1) = (bindingNodes names).map env.text := by
  rw [← List.zipIdx_map_fst 0 (bindingNodes names), List.map_map]
  simp only [TypeEnv.assign, List.map_map]
  rfl

/-- The names one named child of a `var` declaration introduces: a spec its own names, a
parenthesized spec list `inner`, the names of its specs. -/
def specNames (source : String) (child : Node) (inner : List String) : List String :=
  match child.kind with
  | "var_spec" => (child.childrenByField "name").map (·.text source)
  | "var_spec_list" => inner
  | _ => []

mutual
/-- The names a `var` declaration introduces, in order, also those of parenthesized spec
lists. -/
def varNames (source : String) : Node → List String
  | ⟨_, _, _, _, _, _, _, children⟩ => varNamesOf source children

/-- The names the named nodes among `children` introduce as children of a `var`
declaration. -/
def varNamesOf (source : String) : List Node → List String
  | [] => []
  | c :: cs =>
    (if c.named then specNames source c (varNames source c) else []) ++ varNamesOf source cs
end

theorem varNames_eq (source : String) (n : Node) :
    varNames source n =
      n.namedChildren.flatMap fun c => specNames source c (varNames source c) := by
  obtain ⟨_, _, _, _, _, _, _, children⟩ := n
  simp only [varNames, Node.namedChildren]
  induction children with
  | nil => rfl
  | cons c cs ih => by_cases named : c.named <;> simp [varNamesOf, named, ih]

theorem names_varDeclaration (env : TypeEnv) (n : Node) :
    (env.varDeclaration n).map (·.1) = varNames env.source n := by
  rw [TypeEnv.varDeclaration, varNames_eq, List.map_flatMap]
  conv_rhs => rw [← List.attach_map_subtype_val n.namedChildren, List.flatMap_map]
  apply List.flatMap_congr
  rintro ⟨child, mem⟩ -
  dsimp only
  -- a spec binds its own names, a spec list what its specs bind; `specNames` stays folded,
  -- so that the split is over the declaration's own cases
  split
  next spec =>
    rw [names_assign]
    simp [specNames, bindingNodes, spec, TypeEnv.text]
  next list =>
    simp only [specNames, list]
    exact names_varDeclaration env child
  next =>
    unfold specNames
    split <;> simp_all
termination_by sizeOf n
decreasing_by exact Node.sizeOf_lt_of_mem_namedChildren mem

/-- The names a short variable declaration or a `var` declaration introduces, in order. -/
def statementNames (source : String) (n : Node) : List String :=
  match n.kind with
  | "short_var_declaration" =>
    match n.childByField "left", n.childByField "right" with
    | some left, some _ => (bindingNodes left).map (·.text source)
    | _, _ => []
  | "var_declaration" => varNames source n
  | _ => []

theorem localNames_declareStatement (env : TypeEnv) (n : Node) :
    (env.declareStatement n).localNames =
      addNames (declarable (statementNames env.source n)) env.localNames := by
  rw [TypeEnv.declareStatement, localNames_declareAll]
  congr 2
  split
  next short =>
    simp only [statementNames, short]
    split <;> simp_all [names_assign, TypeEnv.text]
  next var =>
    simp only [statementNames, var]
    exact names_varDeclaration env n
  next =>
    unfold statementNames
    split <;> simp_all

/-! ## Opening and closing scopes -/

@[simp] theorem localNames_push (env : TypeEnv) : env.push.localNames = [] :: env.localNames := rfl

@[simp] theorem localNames_pop (env : TypeEnv) : env.pop.localNames = env.localNames.tail := by
  simp [TypeEnv.pop, TypeEnv.localNames, List.map_tail]

@[simp] theorem source_push (env : TypeEnv) : env.push.source = env.source := rfl

theorem sameFile_push (env : TypeEnv) : SameFile env env.push := ⟨rfl, rfl, rfl⟩

theorem sameFile_pop (env : TypeEnv) : SameFile env env.pop := ⟨rfl, rfl, rfl⟩

@[simp] theorem source_declareParameters (env : TypeEnv) (list : Node) :
    (env.declareParameters list).source = env.source :=
  (sameFile_declareParameters env list).2.2

/-- The names a function's scope starts with: those of its receiver, then its parameters. -/
def functionNames (source : String) (node : Node) : List String :=
  ["receiver", "parameters"].flatMap fun field =>
    match node.childByField field with
    | some list => parameterNames source list
    | none => []

/-- The names the scope a node opens starts with: a function's receiver and parameters, none
for a block; nothing for a node that opens no scope. -/
def scopeNames (source : String) (node : Node) : Option (List String) :=
  match node.kind with
  | "function_declaration" | "method_declaration" | "func_literal" =>
    some (functionNames source node)
  | "block" => some []
  | _ => none

/-- The names in scope once a node has opened its scope, if it opens one. -/
def openScope : Option (List String) → List (List String) → List (List String)
  | some names, outer => names.reverse :: outer
  | none, outer => outer

theorem localNames_enterScope (env : TypeEnv) (node : Node) :
    (enterScope env node).localNames = openScope (scopeNames env.source node) env.localNames := by
  unfold enterScope scopeNames
  split
  -- a function declares its receiver, then its parameters, into the scope it pushes
  any_goals
    simp only [List.foldl_cons, List.foldl_nil, functionNames, List.flatMap_cons,
      List.flatMap_nil, List.append_nil]
    split <;> split <;> simp_all [localNames_declareParameters, openScope, addNames]
  all_goals simp_all [openScope]

/-- A declaration's names go into the innermost scope; outside every function there is none. -/
theorem localNames_declareInFunction (inner : TypeEnv) (node : Node) :
    (if inner.inFunction then inner.declareStatement node else inner).localNames =
      addNames (declarable (statementNames inner.source node)) inner.localNames := by
  split
  · exact localNames_declareStatement inner node
  · rename_i outside
    have empty : inner.scopes = [] := by simpa [TypeEnv.inFunction] using outside
    simp [TypeEnv.localNames, empty, addNames]

theorem localNames_leaveScope (node : Node) (inner : TypeEnv) :
    (leaveScope node inner).localNames =
      match scopeNames inner.source node with
      | some _ => inner.localNames.tail
      | none => addNames (declarable (statementNames inner.source node)) inner.localNames := by
  unfold leaveScope
  split <;> simp_all [scopeNames, statementNames, localNames_declareInFunction, declarable]

theorem sameFile_enterScope (env : TypeEnv) (node : Node) : SameFile env (enterScope env node) := by
  unfold enterScope
  split
  any_goals
    refine (sameFile_push env).trans (SameFile.foldl _ (fun e field => ?_) _ _)
    split
    · exact sameFile_declareParameters e _
    · exact SameFile.refl e
  all_goals exact SameFile.refl env

theorem sameFile_leaveScope (node : Node) (inner : TypeEnv) :
    SameFile inner (leaveScope node inner) := by
  unfold leaveScope
  split
  any_goals split
  all_goals first
    | exact sameFile_declareAll inner _
    | exact sameFile_pop inner

mutual
/-- The names a node leaves declared in the scope around it: none when it opens a scope of its
own, else those its named children leave and then those it declares itself. -/
def declaredNames (source : String) : Node → List String
  | node@⟨_, _, _, _, _, _, _, children⟩ =>
    match scopeNames source node with
    | some _ => []
    | none => declaredNamesOf source children ++ declarable (statementNames source node)

/-- The names the named nodes among `children` leave declared, in order. -/
def declaredNamesOf (source : String) : List Node → List String
  | [] => []
  | c :: cs => (if c.named then declaredNames source c else []) ++ declaredNamesOf source cs
end

theorem declaredNamesOf_eq (source : String) (children : List Node) :
    declaredNamesOf source children =
      (children.filter (·.named)).flatMap (declaredNames source) := by
  induction children with
  | nil => rfl
  | cons c cs ih => by_cases named : c.named <;> simp [declaredNamesOf, named, ih]

theorem declaredNames_eq (source : String) (node : Node) :
    declaredNames source node =
      match scopeNames source node with
      | some _ => []
      | none =>
        node.namedChildren.flatMap (declaredNames source) ++
          declarable (statementNames source node) := by
  obtain ⟨_, _, _, _, _, _, _, children⟩ := node
  rw [declaredNames, declaredNamesOf_eq]
  rfl

/-! ## The scoping law -/

theorem foldl_envAfter {nodes : List Node}
    (each : ∀ c ∈ nodes, ∀ e, SameFile e (envAfter e c) ∧
      (envAfter e c).localNames = addNames (declaredNames e.source c) e.localNames)
    (env : TypeEnv) :
    SameFile env (nodes.foldl envAfter env) ∧
      (nodes.foldl envAfter env).localNames =
        addNames (nodes.flatMap (declaredNames env.source)) env.localNames := by
  induction nodes generalizing env with
  | nil => exact ⟨SameFile.refl env, by simp⟩
  | cons c cs ih =>
    obtain ⟨same, names⟩ := each c List.mem_cons_self env
    obtain ⟨same', names'⟩ :=
      ih (fun c' mem => each c' (List.mem_cons_of_mem c mem)) (envAfter env c)
    refine ⟨same.trans same', ?_⟩
    rw [List.foldl_cons, names', names, same.2.2, addNames_append, List.flatMap_cons]

/-- After a node the walk has the scopes it had before, with the names the node declares added
to the innermost one; nothing but the scopes changes. -/
theorem envAfter_names (env : TypeEnv) (node : Node) :
    SameFile env (envAfter env node) ∧
      (envAfter env node).localNames = addNames (declaredNames env.source node) env.localNames := by
  have each : ∀ c ∈ node.namedChildren, ∀ e, SameFile e (envAfter e c) ∧
      (envAfter e c).localNames = addNames (declaredNames e.source c) e.localNames :=
    fun c mem e => envAfter_names e c
  obtain ⟨same, names⟩ := foldl_envAfter each (enterScope env node)
  have entered := sameFile_enterScope env node
  rw [envAfter_eq]
  refine ⟨entered.trans (same.trans (sameFile_leaveScope _ _)), ?_⟩
  rw [localNames_leaveScope, names, localNames_enterScope, declaredNames_eq, same.2.2, entered.2.2]
  -- a node that opens a scope closes it again, dropping what its children declared
  cases scopeNames env.source node with
  | none => exact addNames_append _ _ _
  | some names => simp [openScope, addNames.eq_2]
termination_by sizeOf node
decreasing_by exact Node.sizeOf_lt_of_mem_namedChildren mem

/-- The names in scope at the node at `path` (named-child indices) below `node`, reached
with the names `outer` in scope: each node on the way opens its scope, if any, and the
siblings before the next step add the names they declare. -/
def namesAt (source : String) (outer : List (List String)) (node : Node) :
    List Nat → List (List String)
  | [] => outer
  | i :: path =>
    match node.namedChildren[i]? with
    | some child =>
      namesAt source
        (addNames ((node.namedChildren.take i).flatMap (declaredNames source))
          (openScope (scopeNames source node) outer))
        child path
    | none => outer

theorem envAt_names (env : TypeEnv) (node : Node) (path : List Nat) :
    SameFile env (envAt env node path) ∧
      (envAt env node path).localNames = namesAt env.source env.localNames node path := by
  induction path generalizing env node with
  | nil => exact ⟨SameFile.refl env, rfl⟩
  | cons i path ih =>
    cases found : node.namedChildren[i]? with
    | none =>
      simp only [envAt, namesAt, found]
      exact ⟨SameFile.refl env, trivial⟩
    | some child =>
      simp only [envAt, namesAt, found]
      have entered := sameFile_enterScope env node
      obtain ⟨same, names⟩ := @foldl_envAfter (node.namedChildren.take i)
        (fun c _ e => envAfter_names e c) (enterScope env node)
      obtain ⟨same', names'⟩ :=
        ih ((node.namedChildren.take i).foldl envAfter (enterScope env node)) child
      refine ⟨entered.trans (same.trans same'), ?_⟩
      rw [names', same.2.2, names, entered.2.2, localNames_enterScope]

/-! ## Resolving a callee by its name -/

/-- The type recorded for `name` by its innermost local binding: `some t` when a scope
declares the name. -/
def TypeEnv.localType? (env : TypeEnv) (name : String) : Option (Option NamedType) :=
  env.scopes.findSome? fun s => (s.find? (·.1 == name)).map (·.2)

theorem localType?_eq_none_iff (env : TypeEnv) (name : String) :
    env.localType? name = none ↔ name ∉ env.localNames.flatten := by
  simp [TypeEnv.localType?, TypeEnv.localNames]
  constructor
  · intro none s mem t pair
    exact none s mem name t pair rfl
  · rintro free s mem a t pair rfl
    exact free s mem t pair

theorem varType?_of_local {env : TypeEnv} {name : String} {t : Option NamedType}
    (bound : env.localType? name = some t) : env.varType? name = some t := by
  unfold TypeEnv.varType?
  rw [show env.scopes.findSome? _ = env.localType? name from rfl, bound]

theorem varType?_of_not_local {env : TypeEnv} {name : String} (free : env.localType? name = none) :
    env.varType? name = { env with scopes := [] }.varType? name := by
  unfold TypeEnv.varType?
  rw [show env.scopes.findSome? _ = env.localType? name from rfl, free]
  rfl

/-- The identifier `x` that names the callee of `x(...)` or `x.M(...)`. -/
def calleeVariable (source : String) (function : Node) : Option String :=
  match function.kind with
  | "identifier" => some (function.text source)
  | "selector_expression" =>
    match function.childByField "operand", function.childByField "field" with
    | some operand, some _ =>
      if operand.kind = "identifier" then some (operand.text source) else none
    | _, _ => none
  | _ => none

/-- What a callee named by a variable resolves to: nothing for `x(...)`, and for `x.M(...)` the
methods `M` of the type recorded for `x`, when there is one. -/
def variableCandidates (source : String) (function : Node) (t : Option NamedType) : List Callee :=
  if function.kind = "identifier" then []
  else
    match t, function.childByField "field" with
    | some t, some field => TypeEnv.methodCallees t (field.text source)
    | _, _ => []

/-- A callee variable is the text of an identifier callee, or of the identifier operand of a
selector callee. -/
theorem calleeVariable_eq_some {source : String} {function : Node} {x : String}
    (named : calleeVariable source function = some x) :
    (function.kind = "identifier" ∧ function.text source = x) ∨
      ∃ operand field, function.kind = "selector_expression" ∧
        function.childByField "operand" = some operand ∧
        function.childByField "field" = some field ∧
        operand.kind = "identifier" ∧ operand.text source = x := by
  unfold calleeVariable at named
  split at named
  next ident => exact .inl ⟨ident, Option.some.inj named⟩
  next selector =>
    split at named
    next operand field operandIs fieldIs =>
      split at named
      next ident =>
        exact .inr ⟨operand, field, selector, operandIs, fieldIs, ident, Option.some.inj named⟩
      next => contradiction
    next => contradiction
  next => contradiction

theorem calleeCandidates_of_local {env : TypeEnv} {function : Node} {x : String}
    {t : Option NamedType} (named : calleeVariable env.source function = some x)
    (bound : env.localType? x = some t) :
    env.calleeCandidates function = variableCandidates env.source function t := by
  rw [TypeEnv.calleeCandidates]
  obtain ⟨ident, rfl⟩ | ⟨operand, field, selector, operandIs, fieldIs, ident, rfl⟩ :=
    calleeVariable_eq_some named
  · simp [ident, variableCandidates, TypeEnv.text, varType?_of_local bound]
  · cases t <;> simp [selector, operandIs, fieldIs, ident, variableCandidates, TypeEnv.text,
      varType?_of_local bound]

theorem calleeCandidates_of_not_local {env : TypeEnv} {function : Node} {x : String}
    (named : calleeVariable env.source function = some x) (free : env.localType? x = none) :
    env.calleeCandidates function = { env with scopes := [] }.calleeCandidates function := by
  rw [TypeEnv.calleeCandidates, TypeEnv.calleeCandidates]
  obtain ⟨ident, rfl⟩ | ⟨operand, field, selector, operandIs, fieldIs, ident, rfl⟩ :=
    calleeVariable_eq_some named
  · simp [ident, TypeEnv.text, varType?_of_not_local free]
  · simp [selector, operandIs, fieldIs, ident, TypeEnv.text, varType?_of_not_local free]

/-- At a call `x(...)` or `x.M(...)` below `root`, reached by `path`, the walk resolves
`x` by the block scoping `namesAt` describes. When `x` is among the names in scope there,
it is a variable: `x(...)` gets no candidates and `x.M(...)` only the methods of the type its
innermost binding recorded. Otherwise `x` resolves as at package level. -/
theorem callee_resolution_follows_block_scopes (env : TypeEnv) (root : Node) (path : List Nat)
    (function : Node) {x : String} (named : calleeVariable env.source function = some x) :
    (x ∈ (namesAt env.source env.localNames root path).flatten →
      ∃ t, (envAt env root path).localType? x = some t ∧
        (envAt env root path).calleeCandidates function =
          variableCandidates env.source function t) ∧
    (x ∉ (namesAt env.source env.localNames root path).flatten →
      (envAt env root path).calleeCandidates function =
        { env with scopes := [] }.calleeCandidates function) := by
  obtain ⟨same, names⟩ := envAt_names env root path
  have named' : calleeVariable (envAt env root path).source function = some x := by
    rw [same.2.2]
    exact named
  constructor
  · intro bound
    rw [← names] at bound
    cases found : (envAt env root path).localType? x with
    | none => exact absurd bound ((localType?_eq_none_iff _ _).mp found)
    | some t =>
      refine ⟨t, rfl, ?_⟩
      rw [calleeCandidates_of_local named' found, same.2.2]
  · intro free
    rw [← names, ← localType?_eq_none_iff] at free
    rw [calleeCandidates_of_not_local named' free, same.packageLevel]

/-! ## A range clause declares nothing -/

/-- A loop whose range clause binds the name of an imported package. -/
def rangeSource : String :=
  "package main\n\nimport \"github.com/leonelquinteros/gotext\"\n\n" ++
    "func main() \x7b\n\tfor gotext := range xs \x7b\n\t\tgotext.Get(\"x\")\n\t\x7d\n\x7d\n"

/-- The callee `gotext.Get` of the call in the loop. -/
def rangeCallee : Node :=
  ⟨"selector_expression", true, (some "function"), ⟨100, 6⟩, ⟨110, 6⟩, false, false, [
  ⟨"identifier", true, (some "operand"), ⟨100, 6⟩, ⟨106, 6⟩, false, false, []⟩,
  ⟨".", false, none, ⟨106, 6⟩, ⟨107, 6⟩, false, false, []⟩,
  ⟨"field_identifier", true, (some "field"), ⟨107, 6⟩, ⟨110, 6⟩, false, false, []⟩]⟩

/-- The syntax tree of `rangeSource`. -/
def rangeTree : Node :=
  ⟨"source_file", true, none, ⟨0, 0⟩, ⟨121, 9⟩, false, false, [
    ⟨"package_clause", true, none, ⟨0, 0⟩, ⟨12, 0⟩, false, false, [
      ⟨"package", false, none, ⟨0, 0⟩, ⟨7, 0⟩, false, false, []⟩,
      ⟨"package_identifier", true, none, ⟨8, 0⟩, ⟨12, 0⟩, false, false, []⟩]⟩,
    ⟨"\n", false, none, ⟨12, 0⟩, ⟨13, 1⟩, false, false, []⟩,
    ⟨"import_declaration", true, none, ⟨14, 2⟩, ⟨56, 2⟩, false, false, [
      ⟨"import", false, none, ⟨14, 2⟩, ⟨20, 2⟩, false, false, []⟩,
      ⟨"import_spec", true, none, ⟨21, 2⟩, ⟨56, 2⟩, false, false, [
        ⟨"interpreted_string_literal", true, (some "path"), ⟨21, 2⟩, ⟨56, 2⟩, false, false, [
          ⟨"\"", false, none, ⟨21, 2⟩, ⟨22, 2⟩, false, false, []⟩,
          ⟨"interpreted_string_literal_content", true, none, ⟨22, 2⟩, ⟨55, 2⟩, false, false, []⟩,
          ⟨"\"", false, none, ⟨55, 2⟩, ⟨56, 2⟩, false, false, []⟩]⟩]⟩]⟩,
    ⟨"\n", false, none, ⟨56, 2⟩, ⟨57, 3⟩, false, false, []⟩,
    ⟨"function_declaration", true, none, ⟨58, 4⟩, ⟨120, 8⟩, false, false, [
      ⟨"func", false, none, ⟨58, 4⟩, ⟨62, 4⟩, false, false, []⟩,
      ⟨"identifier", true, (some "name"), ⟨63, 4⟩, ⟨67, 4⟩, false, false, []⟩,
      ⟨"parameter_list", true, (some "parameters"), ⟨67, 4⟩, ⟨69, 4⟩, false, false, [
        ⟨"(", false, none, ⟨67, 4⟩, ⟨68, 4⟩, false, false, []⟩,
        ⟨")", false, none, ⟨68, 4⟩, ⟨69, 4⟩, false, false, []⟩]⟩,
      ⟨"block", true, (some "body"), ⟨70, 4⟩, ⟨120, 8⟩, false, false, [
        ⟨"\x7b", false, none, ⟨70, 4⟩, ⟨71, 4⟩, false, false, []⟩,
        ⟨"statement_list", true, none, ⟨73, 5⟩, ⟨119, 8⟩, false, false, [
          ⟨"for_statement", true, none, ⟨73, 5⟩, ⟨118, 7⟩, false, false, [
            ⟨"for", false, none, ⟨73, 5⟩, ⟨76, 5⟩, false, false, []⟩,
            ⟨"range_clause", true, none, ⟨77, 5⟩, ⟨95, 5⟩, false, false, [
              ⟨"expression_list", true, (some "left"), ⟨77, 5⟩, ⟨83, 5⟩, false, false, [
                ⟨"identifier", true, none, ⟨77, 5⟩, ⟨83, 5⟩, false, false, []⟩]⟩,
              ⟨":=", false, none, ⟨84, 5⟩, ⟨86, 5⟩, false, false, []⟩,
              ⟨"range", false, none, ⟨87, 5⟩, ⟨92, 5⟩, false, false, []⟩,
              ⟨"identifier", true, (some "right"), ⟨93, 5⟩, ⟨95, 5⟩, false, false, []⟩]⟩,
            ⟨"block", true, (some "body"), ⟨96, 5⟩, ⟨118, 7⟩, false, false, [
              ⟨"\x7b", false, none, ⟨96, 5⟩, ⟨97, 5⟩, false, false, []⟩,
              ⟨"statement_list", true, none, ⟨100, 6⟩, ⟨116, 7⟩, false, false, [
                ⟨"expression_statement", true, none, ⟨100, 6⟩, ⟨115, 6⟩, false, false, [
                  ⟨"call_expression", true, none, ⟨100, 6⟩, ⟨115, 6⟩, false, false, [
                    rangeCallee,
                    ⟨"argument_list", true, (some "arguments"), ⟨110, 6⟩, ⟨115, 6⟩, false, false, [
                      ⟨"(", false, none, ⟨110, 6⟩, ⟨111, 6⟩, false, false, []⟩,
                      ⟨"interpreted_string_literal", true, none, ⟨111, 6⟩, ⟨114, 6⟩, false, false, [
                        ⟨"\"", false, none, ⟨111, 6⟩, ⟨112, 6⟩, false, false, []⟩,
                        ⟨"interpreted_string_literal_content", true, none, ⟨112, 6⟩, ⟨113, 6⟩, false, false, []⟩,
                        ⟨"\"", false, none, ⟨113, 6⟩, ⟨114, 6⟩, false, false, []⟩]⟩,
                      ⟨")", false, none, ⟨114, 6⟩, ⟨115, 6⟩, false, false, []⟩]⟩]⟩]⟩,
                ⟨"\n", false, none, ⟨115, 6⟩, ⟨116, 7⟩, false, false, []⟩]⟩,
              ⟨"\x7d", false, none, ⟨117, 7⟩, ⟨118, 7⟩, false, false, []⟩]⟩]⟩,
          ⟨"\n", false, none, ⟨118, 7⟩, ⟨119, 8⟩, false, false, []⟩]⟩,
        ⟨"\x7d", false, none, ⟨119, 8⟩, ⟨120, 8⟩, false, false, []⟩]⟩]⟩,
    ⟨"\n", false, none, ⟨120, 8⟩, ⟨121, 9⟩, false, false, []⟩]⟩

/-- The path of the call `gotext.Get("x")` in `rangeTree`. -/
def rangeCall : List Nat := [2, 2, 0, 0, 1, 0, 0, 0]


/-- The environment the walk of `rangeTree` starts with: the package declares `main`, and the
file's import table binds `gotext` to the package it imports. -/
def rangeEnv : TypeEnv :=
  { package := { importPath := "", functions := ["main"] },
    imports := { aliases := [("gotext", "github.com/leonelquinteros/gotext")] },
    source := rangeSource }

/-- The callee of `gotext.Get("x")`, in the loop of `rangeTree`, resolves at package level,
since no binding of `gotext` is in scope there. -/
theorem range_callee_resolution :
    calleeVariable rangeEnv.source rangeCallee = some "gotext" ∧
      ("gotext" ∈ (namesAt rangeEnv.source rangeEnv.localNames rangeTree rangeCall).flatten →
        ∃ t, (envAt rangeEnv rangeTree rangeCall).localType? "gotext" = some t ∧
          (envAt rangeEnv rangeTree rangeCall).calleeCandidates rangeCallee =
            variableCandidates rangeEnv.source rangeCallee t) ∧
      ("gotext" ∉ (namesAt rangeEnv.source rangeEnv.localNames rangeTree rangeCall).flatten →
        (envAt rangeEnv rangeTree rangeCall).calleeCandidates rangeCallee =
          { rangeEnv with scopes := [] }.calleeCandidates rangeCallee) :=
  ⟨by decide +kernel,
    callee_resolution_follows_block_scopes rangeEnv rangeTree rangeCall rangeCallee
      (by decide +kernel)⟩

/-- In `for gotext := range xs { gotext.Get("x") }` the range clause binds `gotext`, yet the
call's callee resolves through the import table, to the package function `Get` of the
imported `gotext`. -/
theorem range_binding_resolves_through_imports :
    (rangeTree.at? rangeCall).bind (·.childByField "function") = some rangeCallee ∧
      calleeVariable rangeSource rangeCallee = some "gotext" ∧
      (envAt rangeEnv rangeTree rangeCall).calleeCandidates rangeCallee =
        [⟨"github.com/leonelquinteros/gotext.Get", "Get"⟩] := by
  refine ⟨rfl, by decide +kernel, ?_⟩
  obtain ⟨same, names⟩ := envAt_names rangeEnv rangeTree rangeCall
  have named : calleeVariable (envAt rangeEnv rangeTree rangeCall).source rangeCallee =
      some "gotext" := by
    rw [same.2.2]
    decide +kernel
  -- the range clause left no `gotext` in any scope
  have free : (envAt rangeEnv rangeTree rangeCall).localType? "gotext" = none := by
    rw [localType?_eq_none_iff, names]
    decide +kernel
  rw [calleeCandidates_of_not_local named free, same.packageLevel, TypeEnv.calleeCandidates]
  decide +kernel

end Localize.Go
