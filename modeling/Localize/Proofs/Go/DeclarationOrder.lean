import Localize.Proofs.Go.Scoping
import Mathlib.Data.List.Flatten
import Mathlib.Data.List.Nodup

/-! # The package scope and the order of declarations

The package scope is collected in one pass over the files of a package and the top-level
declarations of each, in order (`PackageScope.collect_eq_foldl`); a `var` declaration is typed
with the scope collected before it. Typing reads the package only under the names written in
what it types: two package scopes that agree on those names type it alike
(`TypeEnv.typeOf_agree`, `TypeEnv.exprType_agree`, `TypeEnv.varDeclaration_agree`), and resolve
a callee alike (`TypeEnv.calleeCandidates_agree`).

So in a package whose top-level names are declared once, where no `var` declaration mentions a
name that another declaration declares, every `var` declaration is typed as it would be alone,
and the scope is the same under any reordering of the files and their declarations
(`PackageScope.collect_perm`). When a `var` declaration mentions a later one, it is typed
without it: with `var a = b` in one file and `var b = T{}` in another, `a` has the type `T`
when the second file comes first and no type otherwise (`forward_reference_depends_on_file_order`).
-/

namespace Localize.Parsing

mutual
/-- The texts of a node and of every node below it, in pre-order. -/
def Node.texts (source : String) : Node → List String
  | n@⟨_, _, _, _, _, _, _, children⟩ => n.text source :: Node.textsOf source children

/-- The texts of the nodes of a list of trees and of every node below them. -/
def Node.textsOf (source : String) : List Node → List String
  | [] => []
  | c :: cs => c.texts source ++ Node.textsOf source cs
end

theorem Node.texts_eq (source : String) (n : Node) :
    n.texts source = n.text source :: n.children.flatMap (·.texts source) := by
  obtain ⟨_, _, _, _, _, _, _, children⟩ := n
  simp only [Node.texts]
  congr 1
  induction children with
  | nil => rfl
  | cons c cs ih => simp [Node.textsOf, ih]

theorem Node.text_mem_texts (source : String) (n : Node) : n.text source ∈ n.texts source := by
  rw [Node.texts_eq]
  exact List.mem_cons_self

/-- What holds of every text within a node holds of every text within each of its children. -/
theorem Node.forall_texts_child {source : String} {P : String → Prop} {n c : Node}
    (within : ∀ t ∈ n.texts source, P t) (child : c ∈ n.children) :
    ∀ t ∈ c.texts source, P t := fun t inside =>
  within t (by rw [Node.texts_eq]; exact List.mem_cons_of_mem _ (List.mem_flatMap.mpr ⟨c, child, inside⟩))

theorem Node.mem_children_of_firstNamed {n c : Node} (first : n.firstNamed = some c) :
    c ∈ n.children :=
  (List.mem_filter.mp (List.mem_of_head? first)).1

theorem Node.mem_children_of_childByField {n c : Node} {name : String}
    (found : n.childByField name = some c) : c ∈ n.children :=
  List.mem_of_find?_eq_some found

theorem Node.forall_texts_firstNamed {source : String} {P : String → Prop} {n c : Node}
    (within : ∀ t ∈ n.texts source, P t) (first : n.firstNamed = some c) :
    ∀ t ∈ c.texts source, P t :=
  Node.forall_texts_child within (Node.mem_children_of_firstNamed first)

theorem Node.forall_texts_field {source : String} {P : String → Prop} {n c : Node} {name : String}
    (within : ∀ t ∈ n.texts source, P t) (found : n.childByField name = some c) :
    ∀ t ∈ c.texts source, P t :=
  Node.forall_texts_child within (Node.mem_children_of_childByField found)

end Localize.Parsing

namespace Localize.Go

open Localize.Parsing
open scoped List

/-! ## What typing reads of the package -/

/-- Two package scopes with one import path that agree on the variables and the functions they
declare under every name that `reads` allows. -/
structure PackageScope.AgreeOn (reads : String → Prop) (p q : PackageScope) : Prop where
  importPath : p.importPath = q.importPath
  varType : ∀ name, reads name → p.varType? name = q.varType? name
  functions : ∀ name, reads name → p.functions.contains name = q.functions.contains name

section Agreement

variable {reads : String → Prop} {q : PackageScope} {env : TypeEnv}

theorem TypeEnv.varType?_agree (agree : env.package.AgreeOn reads q) {name : String}
    (read : reads name) : env.varType? name = { env with package := q }.varType? name := by
  unfold TypeEnv.varType?
  rw [agree.varType name read]

theorem TypeEnv.qualified_agree (agree : env.package.AgreeOn reads q) {pkg : String}
    (read : reads pkg) (name : String) :
    env.qualified pkg name = { env with package := q }.qualified pkg name := by
  unfold TypeEnv.qualified
  rw [TypeEnv.varType?_agree agree read]

/-- A type is read alike in two package scopes that agree under the names written in it. -/
theorem TypeEnv.typeOf_agree (agree : env.package.AgreeOn reads q) (n : Node)
    (within : ∀ t ∈ n.texts env.source, reads t) :
    env.typeOf n = { env with package := q }.typeOf n := by
  unfold TypeEnv.typeOf
  split
  · split
    · rename_i inner first
      rw [TypeEnv.typeOf_agree agree inner
        (Node.forall_texts_firstNamed within first)]
    · rfl
  · simp only [TypeEnv.ownType, agree.importPath]
    rfl
  · simp only [TypeEnv.ownType, agree.importPath]
    rfl
  · split
    · rename_i pkg name found _
      have read := Node.forall_texts_field within found
      rw [TypeEnv.qualified_agree agree (read (env.text pkg) (Node.text_mem_texts _ pkg))]
      rfl
    · rfl
  · split
    · rename_i operand field found _
      have read := Node.forall_texts_field within found
      rw [TypeEnv.qualified_agree agree (read (env.text operand) (Node.text_mem_texts _ operand))]
      rfl
    · rfl
  · split
    · rename_i base found
      rw [TypeEnv.typeOf_agree agree base
        (Node.forall_texts_field within found)]
    · rfl
  · split
    · rename_i inner first
      rw [TypeEnv.typeOf_agree agree inner
        (Node.forall_texts_firstNamed within first)]
    · rfl
  · rfl
termination_by sizeOf n
decreasing_by
  all_goals first
    | exact Node.sizeOf_lt_of_firstNamed (by assumption)
    | exact Node.sizeOf_lt_of_childByField (by assumption)

theorem TypeEnv.callResultType_agree (agree : env.package.AgreeOn reads q) (call : Node)
    (within : ∀ t ∈ call.texts env.source, reads t) :
    env.callResultType call = { env with package := q }.callResultType call := by
  unfold TypeEnv.callResultType
  cases found : call.childByField "function" with
  | none => rfl
  | some function =>
    have read := Node.forall_texts_field within found
    have named : reads (function.text env.source) := read _ (Node.text_mem_texts _ function)
    simp only [Option.bind_eq_bind, Option.bind_some, TypeEnv.text, TypeEnv.ownType,
      agree.importPath]
    split
    · -- a plain name: `new(T)` reads the type `T` among the arguments
      rw [TypeEnv.varType?_agree agree named, agree.functions _ named]
      cases arguments : call.childByField "arguments" with
      | none => rfl
      | some args =>
        cases first : args.firstNamed with
        | none => simp only [Option.bind_some, first, Option.bind_none]
        | some type =>
          have typed := Node.forall_texts_firstNamed (Node.forall_texts_field within arguments) first
          simp only [Option.bind_some, first]
          rw [TypeEnv.typeOf_agree agree type typed]
    · -- a selector: a constructor `pkg.NewT` of an imported package
      cases operands : function.childByField "operand" with
      | none => rfl
      | some operand =>
        have readOperand : reads (operand.text env.source) :=
          Node.forall_texts_field read operands _
            (Node.text_mem_texts _ operand)
        simp only [Option.bind_some, TypeEnv.qualified_agree agree readOperand]
    · rfl

/-- An expression is typed alike in two package scopes that agree under the names written in
it. -/
theorem TypeEnv.exprType_agree (agree : env.package.AgreeOn reads q) (n : Node)
    (within : ∀ t ∈ n.texts env.source, reads t) :
    env.exprType n = { env with package := q }.exprType n := by
  unfold TypeEnv.exprType
  simp only [TypeEnv.text]
  split
  · rw [TypeEnv.varType?_agree agree (within _ (Node.text_mem_texts _ n))]
  · split
    · rename_i inner first
      exact TypeEnv.exprType_agree agree inner
        (Node.forall_texts_firstNamed within first)
    · rfl
  · cases typed : n.childByField "type" with
    | none => rfl
    | some type =>
      simp only [Option.bind_some]
      exact TypeEnv.typeOf_agree agree type
        (Node.forall_texts_field within typed)
  · split
    · rename_i op _
      by_cases taken : (op.text env.source != "&") = true
      · simp only [taken, if_true]
      · simp only [taken, Bool.false_eq_true, if_false]
        split
        · rename_i operand found
          rw [TypeEnv.exprType_agree agree operand
            (Node.forall_texts_field within found)]
        · rfl
    · rfl
  · exact TypeEnv.callResultType_agree agree n within
  · rfl
termination_by sizeOf n
decreasing_by
  all_goals first
    | exact Node.sizeOf_lt_of_firstNamed (by assumption)
    | exact Node.sizeOf_lt_of_childByField (by assumption)

/-- A callee is resolved alike in two package scopes that agree under the names written in it. -/
theorem TypeEnv.calleeCandidates_agree (agree : env.package.AgreeOn reads q) (function : Node)
    (within : ∀ t ∈ function.texts env.source, reads t) :
    env.calleeCandidates function = { env with package := q }.calleeCandidates function := by
  unfold TypeEnv.calleeCandidates
  simp only [TypeEnv.text]
  split
  · have named := within _ (Node.text_mem_texts _ function)
    simp only [TypeEnv.varType?_agree agree named, agree.functions _ named, agree.importPath]
    rfl
  · split
    · rename_i operand field found _
      have inOperand := Node.forall_texts_field within found
      by_cases plain : (operand.kind == "identifier") = true
      · simp only [plain, if_true,
          TypeEnv.varType?_agree agree (inOperand _ (Node.text_mem_texts _ operand))]
      · simp only [plain, Bool.false_eq_true, if_false, TypeEnv.exprType_agree agree operand inOperand]
    · rfl
  · split
    · rename_i inner first
      exact TypeEnv.calleeCandidates_agree agree inner
        (Node.forall_texts_firstNamed within first)
    · rfl
  · rfl
termination_by sizeOf function
decreasing_by exact Node.sizeOf_lt_of_firstNamed (by assumption)

/-- The value a name takes in a binding list is one of the values. -/
theorem mem_of_valueFor {values : List Node} {matched first : Bool} {i : Nat} {v : Node}
    (chosen : (if matched = true then values[i]? else if first = true then values.head? else none) =
      some v) : v ∈ values := by
  split at chosen
  · exact List.mem_of_getElem? chosen
  · split at chosen
    · exact List.mem_of_head? chosen
    · cases chosen

/-- The names of a binding list get alike types in two package scopes that agree under the names
written in the values. -/
theorem TypeEnv.assign_agree (agree : env.package.AgreeOn reads q) (names : Node)
    (values : Option Node) (declared : Option NamedType)
    (within : ∀ list ∈ values, ∀ t ∈ list.texts env.source, reads t) :
    env.assign names values declared = { env with package := q }.assign names values declared := by
  unfold TypeEnv.assign
  cases values with
  | none => simp [TypeEnv.text]
  | some list =>
    simp only
    apply List.map_congr_left
    rintro ⟨name, i⟩ -
    cases declared with
    | some t => rfl
    | none =>
      simp only [Prod.mk.injEq]
      refine ⟨rfl, Option.bind_congr fun v chosen => ?_⟩
      -- the value taken is one of the list's named children
      have listed : v ∈ list.namedChildren := (List.mem_filter.mp (mem_of_valueFor chosen)).1
      exact TypeEnv.exprType_agree agree v (Node.forall_texts_child (within list rfl)
        (List.mem_filter.mp listed).1)

/-- A `var` declaration is typed alike in two package scopes that agree under the names written
in it. -/
theorem TypeEnv.varDeclaration_agree (agree : env.package.AgreeOn reads q) (n : Node)
    (within : ∀ t ∈ n.texts env.source, reads t) :
    env.varDeclaration n = { env with package := q }.varDeclaration n := by
  unfold TypeEnv.varDeclaration
  apply List.flatMap_congr
  rintro ⟨child, member⟩ -
  have inChild := Node.forall_texts_child within (List.mem_filter.mp member).1
  dsimp only
  split
  · -- a spec: its declared type and its values are read in the same scopes
    have declared : (child.childByField "type").bind env.typeOf =
        (child.childByField "type").bind { env with package := q }.typeOf :=
      Option.bind_congr fun type found => TypeEnv.typeOf_agree agree type
        (Node.forall_texts_field inChild found)
    rw [declared]
    exact TypeEnv.assign_agree agree child _ _ fun list found =>
      Node.forall_texts_field inChild found
  · exact TypeEnv.varDeclaration_agree agree child inChild
  · rfl
termination_by sizeOf n
decreasing_by exact Node.sizeOf_lt_of_mem_namedChildren member

end Agreement

/-! ## Collecting the declarations in order -/

/-- A top-level declaration of a file, with the imports and the source text of its file. -/
structure TopLevel where
  imports : Imports
  source : String
  node : Node

/-- The top-level declarations of a package's files, in order. -/
def PackageScope.topLevel (files : List (Node × String)) : List TopLevel :=
  files.flatMap fun (root, source) =>
    root.namedChildren.map fun node => ⟨Imports.table root source, source, node⟩

/-- Collecting a package takes in its top-level declarations one by one. -/
theorem PackageScope.collect_eq_foldl (importPath : String) (files : List (Node × String)) :
    PackageScope.collect importPath files =
      (PackageScope.topLevel files).foldl
        (fun scope d => scope.addDeclaration d.imports d.source d.node) { importPath := importPath } := by
  simp [PackageScope.collect, PackageScope.topLevel, List.foldl_flatMap, List.foldl_map]

/-- The names a top-level declaration gives the package: a function's name, or the names of a
`var` declaration. -/
def TopLevel.names (d : TopLevel) : List String :=
  match d.node.kind with
  | "function_declaration" => ((d.node.childByField "name").map (·.text d.source)).toList
  | "var_declaration" => varNames d.source d.node
  | _ => []

/-- What a declaration gives a package that declares nothing else. -/
def TopLevel.alone (importPath : String) (d : TopLevel) : PackageScope :=
  ({ importPath := importPath } : PackageScope).addDeclaration d.imports d.source d.node

/-- The package scope of declarations each taken in as if nothing else were declared. -/
def PackageScope.ofSeparate (importPath : String) (ds : List TopLevel) : PackageScope where
  importPath := importPath
  globals := ds.flatMap fun d => (d.alone importPath).globals
  functions := ds.flatMap fun d => (d.alone importPath).functions

theorem map_fst_filterMap_sublist (bindings : List (String × Option NamedType)) :
    (bindings.filterMap fun (n, t) => t.map (n, ·)).map (·.1) <+ bindings.map (·.1) := by
  induction bindings with
  | nil => exact List.Sublist.slnil
  | cons b bs ih =>
    obtain ⟨n, t⟩ := b
    cases t with
    | none => exact ih.cons n
    | some t => exact ih.cons_cons n

/-- A declaration alone declares variables and functions only under its own names. -/
theorem TopLevel.alone_names (importPath : String) (d : TopLevel) :
    (d.alone importPath).globals.map (·.1) <+ d.names ∧ (d.alone importPath).functions <+ d.names := by
  -- `names` stays folded until the kind is known, so that only the declaration's match splits
  unfold TopLevel.alone PackageScope.addDeclaration
  split
  · rename_i function
    simp only [TopLevel.names, function]
    split
    · rename_i name found
      simp [found]
    · simp
  · rename_i var
    refine ⟨?_, List.nil_sublist _⟩
    have typed := map_fst_filterMap_sublist
      (({ package := { importPath := importPath }, imports := d.imports, source := d.source } :
        TypeEnv).varDeclaration d.node)
    rw [names_varDeclaration] at typed
    simpa [TopLevel.names, PackageScope.typedVariables, var] using typed
  · simp

/-- Declarations taken in separately declare variables and functions only under their names. -/
theorem PackageScope.ofSeparate_names (importPath : String) (ds : List TopLevel) :
    (PackageScope.ofSeparate importPath ds).globals.map (·.1) <+ ds.flatMap TopLevel.names ∧
      (PackageScope.ofSeparate importPath ds).functions <+ ds.flatMap TopLevel.names := by
  refine ⟨?_, List.Sublist.flatMap_right ds fun d _ => (d.alone_names importPath).2⟩
  rw [PackageScope.ofSeparate, List.map_flatMap]
  exact List.Sublist.flatMap_right ds fun d _ => (d.alone_names importPath).1

theorem PackageScope.varType?_eq_none {p : PackageScope} {name : String}
    (absent : name ∉ p.globals.map (·.1)) : p.varType? name = none := by
  unfold PackageScope.varType?
  rw [Option.map_eq_none_iff, List.find?_eq_none]
  intro g member same
  exact absent (List.mem_map.mpr ⟨g, List.mem_reverse.mp member, by simpa using same⟩)

/-- Taking in a declaration whose texts the scope does not declare, when it is a `var`
declaration, adds what the declaration gives alone. -/
theorem PackageScope.addDeclaration_of_agree {scope : PackageScope} {d : TopLevel}
    (agree : d.node.kind = "var_declaration" →
      scope.AgreeOn (· ∈ d.node.texts d.source) { importPath := scope.importPath }) :
    scope.addDeclaration d.imports d.source d.node =
      { scope with
        globals := scope.globals ++ (d.alone scope.importPath).globals
        functions := scope.functions ++ (d.alone scope.importPath).functions } := by
  unfold TopLevel.alone PackageScope.addDeclaration
  split
  · split <;> simp
  · rename_i var
    have typed :
        ({ package := scope, imports := d.imports, source := d.source } : TypeEnv).varDeclaration
            d.node =
          ({ package := { importPath := scope.importPath }, imports := d.imports,
              source := d.source } : TypeEnv).varDeclaration d.node :=
      TypeEnv.varDeclaration_agree (agree var) d.node fun t inside => inside
    simp only [PackageScope.typedVariables, typed, List.nil_append, List.append_nil]
  · cases scope
    simp

/-- Taking in, one by one, declarations that mention no name declared before them gives what
they give separately. -/
theorem PackageScope.foldl_addDeclaration (importPath : String) (pre ds : List TopLevel)
    (once : ((pre ++ ds).flatMap TopLevel.names).Nodup)
    (unmentioned : ∀ d ∈ ds, d.node.kind = "var_declaration" →
      ∀ t ∈ d.node.texts d.source, t ∈ (pre ++ ds).flatMap TopLevel.names → t ∈ d.names) :
    ds.foldl (fun scope d => scope.addDeclaration d.imports d.source d.node)
        (PackageScope.ofSeparate importPath pre) =
      PackageScope.ofSeparate importPath (pre ++ ds) := by
  induction ds generalizing pre with
  | nil => simp
  | cons d ds ih =>
    -- the scope before `d` declares only names of earlier declarations, which `d` does not mention
    have fresh : d.node.kind = "var_declaration" →
        ∀ t ∈ d.node.texts d.source, t ∉ pre.flatMap TopLevel.names := by
      intro var t inside earlier
      have own := unmentioned d List.mem_cons_self var t inside
        (by rw [List.flatMap_append]; exact List.mem_append_left _ earlier)
      rw [List.flatMap_append, List.nodup_append] at once
      exact once.2.2 t earlier t (by simp [own]) rfl
    have step : (PackageScope.ofSeparate importPath pre).addDeclaration d.imports d.source d.node =
        PackageScope.ofSeparate importPath (pre ++ [d]) := by
      rw [PackageScope.addDeclaration_of_agree]
      · simp [PackageScope.ofSeparate]
      · intro var
        have names := PackageScope.ofSeparate_names importPath pre
        refine ⟨rfl, fun t inside => ?_, fun t inside => ?_⟩
        · rw [PackageScope.varType?_eq_none fun named => fresh var t inside (names.1.subset named)]
          rfl
        · have absent : t ∉ (PackageScope.ofSeparate importPath pre).functions :=
            fun named => fresh var t inside (names.2.subset named)
          simpa using absent
    rw [List.foldl_cons, step, ih (pre ++ [d]) (by simpa using once)]
    · simp
    · intro e member var t inside named
      exact unmentioned e (List.mem_cons_of_mem d member) var t inside (by simpa using named)

/-! ## Reordering the declarations -/

/-- In a list of typed names that names each once, the one found under a name is the one with
that name. -/
theorem find?_name_eq_some_iff {l : List (String × NamedType)} (once : (l.map (·.1)).Nodup)
    {name : String} {g : String × NamedType} :
    l.find? (·.1 == name) = some g ↔ g ∈ l ∧ g.1 = name := by
  constructor
  · intro found
    exact ⟨List.mem_of_find?_eq_some found, by simpa using List.find?_some found⟩
  · rintro ⟨member, named⟩
    obtain ⟨h, found⟩ : ∃ h, l.find? (·.1 == name) = some h :=
      Option.isSome_iff_exists.mp (List.find?_isSome.mpr ⟨g, member, by simpa using named⟩)
    have same : h.1 = g.1 := by simpa [named] using List.find?_some found
    rw [found, List.inj_on_of_nodup_map once (List.mem_of_find?_eq_some found) member same]

/-- Package variables named once each are looked up alike in any order. -/
theorem PackageScope.varType?_eq_of_perm {p q : PackageScope} (perm : p.globals.Perm q.globals)
    (once : (p.globals.map (·.1)).Nodup) (name : String) : p.varType? name = q.varType? name := by
  have reversed : ∀ r : PackageScope, (r.globals.map (·.1)).Nodup →
      (r.globals.reverse.map (·.1)).Nodup := fun r named => by
    rw [List.map_reverse]
    exact List.nodup_reverse.mpr named
  have once' : (q.globals.map (·.1)).Nodup := ((perm.map _).nodup_iff).mp once
  unfold PackageScope.varType?
  congr 1
  ext g
  rw [find?_name_eq_some_iff (reversed p once), find?_name_eq_some_iff (reversed q once'),
    List.mem_reverse, List.mem_reverse, perm.mem_iff]

/-- **The package scope does not depend on the order of declarations that mention no other
declaration.** In a package whose top-level `var` and function names are each declared once,
and where the texts within each `var` declaration name no other declaration, any reordering of
the files and of their top-level declarations gives the same variable types and the same
functions, and so every callee resolves the same way. -/
theorem PackageScope.collect_perm (importPath : String) {files files' : List (Node × String)}
    (reordered : (PackageScope.topLevel files).Perm (PackageScope.topLevel files'))
    (once : ((PackageScope.topLevel files).flatMap TopLevel.names).Nodup)
    (unmentioned : ∀ d ∈ PackageScope.topLevel files, d.node.kind = "var_declaration" →
      ∀ t ∈ d.node.texts d.source,
        t ∈ (PackageScope.topLevel files).flatMap TopLevel.names → t ∈ d.names) :
    (∀ name, (PackageScope.collect importPath files).varType? name =
        (PackageScope.collect importPath files').varType? name) ∧
      (∀ name, name ∈ (PackageScope.collect importPath files).functions ↔
        name ∈ (PackageScope.collect importPath files').functions) ∧
      ∀ (env : TypeEnv) (callee : Node),
        { env with package := PackageScope.collect importPath files }.calleeCandidates callee =
          { env with package := PackageScope.collect importPath files' }.calleeCandidates callee := by
  have names := reordered.flatMap_right TopLevel.names
  -- both orders are taken in as if each declaration stood alone
  have separate : PackageScope.collect importPath files =
      PackageScope.ofSeparate importPath (PackageScope.topLevel files) := by
    rw [PackageScope.collect_eq_foldl]
    exact PackageScope.foldl_addDeclaration importPath [] _ once unmentioned
  have separate' : PackageScope.collect importPath files' =
      PackageScope.ofSeparate importPath (PackageScope.topLevel files') := by
    rw [PackageScope.collect_eq_foldl]
    refine PackageScope.foldl_addDeclaration importPath [] _ (names.nodup_iff.mp once) ?_
    intro d member var t inside named
    exact unmentioned d (reordered.mem_iff.mpr member) var t inside (names.mem_iff.mpr named)
  have sameType : ∀ name, (PackageScope.collect importPath files).varType? name =
      (PackageScope.collect importPath files').varType? name := by
    rw [separate, separate']
    exact PackageScope.varType?_eq_of_perm (reordered.flatMap_right _)
      ((PackageScope.ofSeparate_names importPath _).1.nodup once)
  have sameFunctions : ∀ name, name ∈ (PackageScope.collect importPath files).functions ↔
      name ∈ (PackageScope.collect importPath files').functions := by
    rw [separate, separate']
    exact fun name => (reordered.flatMap_right _).mem_iff
  refine ⟨sameType, sameFunctions, fun env callee => ?_⟩
  have agree : ({ env with package := PackageScope.collect importPath files } : TypeEnv).package.AgreeOn
      (fun _ => True) (PackageScope.collect importPath files') :=
    ⟨by rw [separate, separate']; rfl, fun name _ => sameType name,
      fun name _ => Bool.eq_iff_iff.mpr (by simpa using sameFunctions name)⟩
  exact TypeEnv.calleeCandidates_agree agree callee fun _ _ => trivial

/-! ## A variable typed through a later declaration -/

/-- A file that declares `a` as the value of `b`. -/
def forwardSource : String := "package app\n\nvar a = b\n"

/-- The syntax tree of `forwardSource`. -/
def forwardTree : Node :=
  ⟨"source_file", true, none, ⟨0, 0⟩, ⟨23, 3⟩, false, false, [
    ⟨"package_clause", true, none, ⟨0, 0⟩, ⟨11, 0⟩, false, false, [
      ⟨"package", false, none, ⟨0, 0⟩, ⟨7, 0⟩, false, false, []⟩,
      ⟨"package_identifier", true, none, ⟨8, 0⟩, ⟨11, 0⟩, false, false, []⟩]⟩,
    ⟨"\n", false, none, ⟨11, 0⟩, ⟨12, 1⟩, false, false, []⟩,
    ⟨"var_declaration", true, none, ⟨13, 2⟩, ⟨22, 2⟩, false, false, [
      ⟨"var", false, none, ⟨13, 2⟩, ⟨16, 2⟩, false, false, []⟩,
      ⟨"var_spec", true, none, ⟨17, 2⟩, ⟨22, 2⟩, false, false, [
        ⟨"identifier", true, some "name", ⟨17, 2⟩, ⟨18, 2⟩, false, false, []⟩,
        ⟨"=", false, none, ⟨19, 2⟩, ⟨20, 2⟩, false, false, []⟩,
        ⟨"expression_list", true, some "value", ⟨21, 2⟩, ⟨22, 2⟩, false, false, [
          ⟨"identifier", true, none, ⟨21, 2⟩, ⟨22, 2⟩, false, false, []⟩]⟩]⟩]⟩,
    ⟨"\n", false, none, ⟨22, 2⟩, ⟨23, 3⟩, false, false, []⟩]⟩

/-- A file that declares the type `T` and `b` as a `T`. -/
def typedSource : String := "package app\n\ntype T struct\x7b\x7d\n\nvar b = T\x7b\x7d\n"

/-- The syntax tree of `typedSource`. -/
def typedTree : Node :=
  ⟨"source_file", true, none, ⟨0, 0⟩, ⟨42, 5⟩, false, false, [
    ⟨"package_clause", true, none, ⟨0, 0⟩, ⟨11, 0⟩, false, false, [
      ⟨"package", false, none, ⟨0, 0⟩, ⟨7, 0⟩, false, false, []⟩,
      ⟨"package_identifier", true, none, ⟨8, 0⟩, ⟨11, 0⟩, false, false, []⟩]⟩,
    ⟨"\n", false, none, ⟨11, 0⟩, ⟨12, 1⟩, false, false, []⟩,
    ⟨"type_declaration", true, none, ⟨13, 2⟩, ⟨28, 2⟩, false, false, [
      ⟨"type", false, none, ⟨13, 2⟩, ⟨17, 2⟩, false, false, []⟩,
      ⟨"type_spec", true, none, ⟨18, 2⟩, ⟨28, 2⟩, false, false, [
        ⟨"type_identifier", true, some "name", ⟨18, 2⟩, ⟨19, 2⟩, false, false, []⟩,
        ⟨"struct_type", true, some "type", ⟨20, 2⟩, ⟨28, 2⟩, false, false, [
          ⟨"struct", false, none, ⟨20, 2⟩, ⟨26, 2⟩, false, false, []⟩,
          ⟨"field_declaration_list", true, none, ⟨26, 2⟩, ⟨28, 2⟩, false, false, [
            ⟨"\x7b", false, none, ⟨26, 2⟩, ⟨27, 2⟩, false, false, []⟩,
            ⟨"\x7d", false, none, ⟨27, 2⟩, ⟨28, 2⟩, false, false, []⟩]⟩]⟩]⟩]⟩,
    ⟨"\n", false, none, ⟨28, 2⟩, ⟨29, 3⟩, false, false, []⟩,
    ⟨"var_declaration", true, none, ⟨30, 4⟩, ⟨41, 4⟩, false, false, [
      ⟨"var", false, none, ⟨30, 4⟩, ⟨33, 4⟩, false, false, []⟩,
      ⟨"var_spec", true, none, ⟨34, 4⟩, ⟨41, 4⟩, false, false, [
        ⟨"identifier", true, some "name", ⟨34, 4⟩, ⟨35, 4⟩, false, false, []⟩,
        ⟨"=", false, none, ⟨36, 4⟩, ⟨37, 4⟩, false, false, []⟩,
        ⟨"expression_list", true, some "value", ⟨38, 4⟩, ⟨41, 4⟩, false, false, [
          ⟨"composite_literal", true, none, ⟨38, 4⟩, ⟨41, 4⟩, false, false, [
            ⟨"type_identifier", true, some "type", ⟨38, 4⟩, ⟨39, 4⟩, false, false, []⟩,
            ⟨"literal_value", true, some "body", ⟨39, 4⟩, ⟨41, 4⟩, false, false, [
              ⟨"\x7b", false, none, ⟨39, 4⟩, ⟨40, 4⟩, false, false, []⟩,
              ⟨"\x7d", false, none, ⟨40, 4⟩, ⟨41, 4⟩, false, false, []⟩]⟩]⟩]⟩]⟩]⟩,
    ⟨"\n", false, none, ⟨41, 4⟩, ⟨42, 5⟩, false, false, []⟩]⟩

/-- A file whose `main` calls `a.Get("x")`. -/
def callerSource : String := "package app\n\nfunc main() \x7b\n\ta.Get(\"x\")\n\x7d\n"

/-- The callee `a.Get` of the call in `main`. -/
def callerCallee : Node :=
  ⟨"selector_expression", true, some "function", ⟨28, 3⟩, ⟨33, 3⟩, false, false, [
    ⟨"identifier", true, some "operand", ⟨28, 3⟩, ⟨29, 3⟩, false, false, []⟩,
    ⟨".", false, none, ⟨29, 3⟩, ⟨30, 3⟩, false, false, []⟩,
    ⟨"field_identifier", true, some "field", ⟨30, 3⟩, ⟨33, 3⟩, false, false, []⟩]⟩

/-- The syntax tree of `callerSource`. -/
def callerTree : Node :=
  ⟨"source_file", true, none, ⟨0, 0⟩, ⟨41, 5⟩, false, false, [
    ⟨"package_clause", true, none, ⟨0, 0⟩, ⟨11, 0⟩, false, false, [
      ⟨"package", false, none, ⟨0, 0⟩, ⟨7, 0⟩, false, false, []⟩,
      ⟨"package_identifier", true, none, ⟨8, 0⟩, ⟨11, 0⟩, false, false, []⟩]⟩,
    ⟨"\n", false, none, ⟨11, 0⟩, ⟨12, 1⟩, false, false, []⟩,
    ⟨"function_declaration", true, none, ⟨13, 2⟩, ⟨40, 4⟩, false, false, [
      ⟨"func", false, none, ⟨13, 2⟩, ⟨17, 2⟩, false, false, []⟩,
      ⟨"identifier", true, some "name", ⟨18, 2⟩, ⟨22, 2⟩, false, false, []⟩,
      ⟨"parameter_list", true, some "parameters", ⟨22, 2⟩, ⟨24, 2⟩, false, false, [
        ⟨"(", false, none, ⟨22, 2⟩, ⟨23, 2⟩, false, false, []⟩,
        ⟨")", false, none, ⟨23, 2⟩, ⟨24, 2⟩, false, false, []⟩]⟩,
      ⟨"block", true, some "body", ⟨25, 2⟩, ⟨40, 4⟩, false, false, [
        ⟨"\x7b", false, none, ⟨25, 2⟩, ⟨26, 2⟩, false, false, []⟩,
        ⟨"statement_list", true, none, ⟨28, 3⟩, ⟨39, 4⟩, false, false, [
          ⟨"expression_statement", true, none, ⟨28, 3⟩, ⟨38, 3⟩, false, false, [
            ⟨"call_expression", true, none, ⟨28, 3⟩, ⟨38, 3⟩, false, false, [
              callerCallee,
              ⟨"argument_list", true, some "arguments", ⟨33, 3⟩, ⟨38, 3⟩, false, false, [
                ⟨"(", false, none, ⟨33, 3⟩, ⟨34, 3⟩, false, false, []⟩,
                ⟨"interpreted_string_literal", true, none, ⟨34, 3⟩, ⟨37, 3⟩, false, false, [
                  ⟨"\"", false, none, ⟨34, 3⟩, ⟨35, 3⟩, false, false, []⟩,
                  ⟨"interpreted_string_literal_content", true, none, ⟨35, 3⟩, ⟨36, 3⟩, false, false,
                    []⟩,
                  ⟨"\"", false, none, ⟨36, 3⟩, ⟨37, 3⟩, false, false, []⟩]⟩,
                ⟨")", false, none, ⟨37, 3⟩, ⟨38, 3⟩, false, false, []⟩]⟩]⟩]⟩,
          ⟨"\n", false, none, ⟨38, 3⟩, ⟨39, 4⟩, false, false, []⟩]⟩,
        ⟨"\x7d", false, none, ⟨39, 4⟩, ⟨40, 4⟩, false, false, []⟩]⟩]⟩,
    ⟨"\n", false, none, ⟨40, 4⟩, ⟨41, 5⟩, false, false, []⟩]⟩

/-- The package scopes of the files `forwardTree` and `typedTree` of the package
`example.com/app`, in the two orders. -/
def forwardFirst : PackageScope :=
  PackageScope.collect "example.com/app" [(forwardTree, forwardSource), (typedTree, typedSource)]

def typedFirst : PackageScope :=
  PackageScope.collect "example.com/app" [(typedTree, typedSource), (forwardTree, forwardSource)]

/-- With `var a = b` in one file and `var b = T{}` in another, `a` has the type `T` when the
second file comes first and no type when it comes second, so the call `a.Get("x")` in `main`
resolves to the methods `Get` of `T` in one order and to nothing in the other. -/
theorem forward_reference_depends_on_file_order :
    forwardFirst.varType? "a" = none ∧
      typedFirst.varType? "a" = some ⟨"example.com/app", "T", false⟩ ∧
      ({ package := forwardFirst, imports := {}, source := callerSource, scopes := [[]] } :
        TypeEnv).calleeCandidates callerCallee = [] ∧
      ({ package := typedFirst, imports := {}, source := callerSource, scopes := [[]] } :
        TypeEnv).calleeCandidates callerCallee =
          TypeEnv.methodCallees ⟨"example.com/app", "T", false⟩ "Get" :=
  ⟨by decide +kernel, by decide +kernel, by decide +kernel, by decide +kernel⟩

/-- The files `forwardTree` and `callerTree`: `a` is declared once and its value names no other
declaration, `main` is declared once. -/
def unrelatedFiles : List (Node × String) :=
  [(forwardTree, forwardSource), (callerTree, callerSource)]

/-- Both orders of `unrelatedFiles` give the same scope. -/
theorem collect_unrelated_files_reordered :
    (PackageScope.topLevel unrelatedFiles).Perm (PackageScope.topLevel unrelatedFiles.reverse) ∧
      ((PackageScope.topLevel unrelatedFiles).flatMap TopLevel.names).Nodup ∧
      (∀ d ∈ PackageScope.topLevel unrelatedFiles, d.node.kind = "var_declaration" →
        ∀ t ∈ d.node.texts d.source,
          t ∈ (PackageScope.topLevel unrelatedFiles).flatMap TopLevel.names → t ∈ d.names) ∧
      (∀ name, (PackageScope.collect "example.com/app" unrelatedFiles).varType? name =
          (PackageScope.collect "example.com/app" unrelatedFiles.reverse).varType? name) ∧
      (∀ name, name ∈ (PackageScope.collect "example.com/app" unrelatedFiles).functions ↔
          name ∈ (PackageScope.collect "example.com/app" unrelatedFiles.reverse).functions) ∧
      ∀ (env : TypeEnv) (callee : Node),
        { env with package := PackageScope.collect "example.com/app" unrelatedFiles }.calleeCandidates
            callee =
          { env with package := PackageScope.collect "example.com/app" unrelatedFiles.reverse
            }.calleeCandidates callee := by
  have reordered :
      (PackageScope.topLevel unrelatedFiles).Perm (PackageScope.topLevel unrelatedFiles.reverse) := by
    simp only [unrelatedFiles, PackageScope.topLevel, List.reverse_cons, List.reverse_nil,
      List.nil_append, List.cons_append, List.flatMap_cons, List.flatMap_nil, List.append_nil]
    exact List.perm_append_comm
  have once : ((PackageScope.topLevel unrelatedFiles).flatMap TopLevel.names).Nodup := by
    decide +kernel
  have unmentioned : ∀ d ∈ PackageScope.topLevel unrelatedFiles, d.node.kind = "var_declaration" →
      ∀ t ∈ d.node.texts d.source,
        t ∈ (PackageScope.topLevel unrelatedFiles).flatMap TopLevel.names → t ∈ d.names := by
    decide +kernel
  exact ⟨reordered, once, unmentioned,
    PackageScope.collect_perm "example.com/app" reordered once unmentioned⟩

end Localize.Go
