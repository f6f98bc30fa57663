import Mathlib.Data.List.Basic
import Localize.Go.Extract

/-! # The walk over a Go file

`visit` walks a file's syntax tree once, threading the environment of names through it and
collecting what it finds: occurrences, and the faults of literals it cannot cut out of their
quotes. `visit_eq` takes one node apart: the scope it opens on the way in (`enterScope`), its
children walked in order (`walkNodes`), the scope it closes or the names it declares on the way
out (`leaveScope`), and what it gives by itself (`occurrenceAt`).

From that, `visit_eq_preorder`: the walk's findings are those of the tree's nodes in pre-order
(`Node.preorder`), each read in the environment the walk has when it reaches the node
(`envAt`). For one call, `callOccurrence_eq_ok_some` spells out when it gives an occurrence
(`MessageCall`): the first identity of its callee with a signature gives the roles, there is an
argument for every role and each one outside `skip` is a string literal whose delimiters take
one byte each, and each field holds the last argument in its role without its delimiters
(`readArguments_eq`). `callOccurrence_eq_error` spells out when it stops the extraction
(`FaultyCall`): reading its arguments reaches a literal whose text cannot be cut at its second
and its last byte (`stripQuotes_cases`), as when its closing quote is missing and its last
character takes more than one byte (`stripQuotes_of_wide_last`).
`package_occurrences_follow_signatures` puts these together for a whole package.
-/

namespace Localize.Parsing

mutual
/-- The nodes of a tree in pre-order, a node before its named children, each with its path of
named-child indices from the root. -/
def Node.preorder : Node → List (List Nat × Node)
  | node@⟨_, _, _, _, _, _, _, children⟩ => ([], node) :: preorderOf 0 children
/-- The pre-order of the named nodes among `children`, numbered from `i`. -/
def preorderOf : Nat → List Node → List (List Nat × Node)
  | _, [] => []
  | i, c :: cs =>
    if c.named then (Node.preorder c).map (fun (path, m) => (i :: path, m)) ++ preorderOf (i + 1) cs
    else preorderOf i cs
end

theorem preorderOf_eq (i : Nat) (cs : List Node) :
    preorderOf i cs = ((cs.filter (·.named)).zipIdx i).flatMap fun p =>
      p.1.preorder.map fun (path, m) => (p.2 :: path, m) := by
  induction cs generalizing i with
  | nil => simp [preorderOf]
  | cons c cs ih =>
    by_cases named : c.named <;> simp [preorderOf, named, ih]

theorem Node.preorder_eq (node : Node) :
    node.preorder = ([], node) :: (node.namedChildren.zipIdx.flatMap fun p =>
      p.1.preorder.map fun (path, m) => (p.2 :: path, m)) := by
  cases node
  rw [Node.preorder, preorderOf_eq]
  rfl

end Localize.Parsing

namespace Localize.Go

open Localize.Parsing Localize.Text

/-! ## One node at a time -/

/-- The environment on entering a node: a function opens a scope holding its receiver and
parameters, a block an empty one. -/
def enterScope (env : TypeEnv) (node : Node) : TypeEnv :=
  match node.kind with
  | "function_declaration" | "method_declaration" | "func_literal" =>
    ["receiver", "parameters"].foldl (fun e field =>
      match node.childByField field with
      | some list => e.declareParameters list
      | none => e) env.push
  | "block" => env.push
  | _ => env

/-- The environment on leaving a node, from `inner`, what its children left: a function or
block closes its scope, and a declaration inside a function declares its names. -/
def leaveScope (node : Node) (inner : TypeEnv) : TypeEnv :=
  match node.kind with
  | "function_declaration" | "method_declaration" | "func_literal" | "block" => inner.pop
  | "short_var_declaration" | "var_declaration" =>
    if inner.inFunction then inner.declareStatement node else inner
  | _ => inner

/-- What a node gives by itself: the occurrence of a message call, or the fault of a literal
among its arguments. -/
def occurrenceAt (ctx : FileCtx) (env : TypeEnv) (node : Node) : List (Except String Occurrence) :=
  if node.kind = "call_expression" then callFindings ctx env node else []

/-- Walks sibling nodes in order, each from the environment the one before it left. -/
def walkNodes (ctx : FileCtx) : TypeEnv → List Node → TypeEnv × List (Except String Occurrence)
  | env, [] => (env, [])
  | env, node :: nodes =>
    let (env, here) := visit ctx env node
    let (env, later) := walkNodes ctx env nodes
    (env, here ++ later)

/-- One step of the walk's fold over children. -/
def walkStep (ctx : FileCtx) (acc : TypeEnv × List (List (Except String Occurrence)))
    (child : Node) : TypeEnv × List (List (Except String Occurrence)) :=
  ((visit ctx acc.1 child).1, (visit ctx acc.1 child).2 :: acc.2)

theorem foldl_walkStep (ctx : FileCtx) (nodes : List Node) (env : TypeEnv)
    (acc : List (List (Except String Occurrence))) :
    (nodes.foldl (walkStep ctx) (env, acc)).1 = (walkNodes ctx env nodes).1 ∧
      (nodes.foldl (walkStep ctx) (env, acc)).2.reverse.flatten =
        acc.reverse.flatten ++ (walkNodes ctx env nodes).2 := by
  induction nodes generalizing env acc with
  | nil => simp [walkNodes]
  | cons node nodes ih =>
    obtain ⟨first, second⟩ := ih (visit ctx env node).1 ((visit ctx env node).2 :: acc)
    simp only [List.foldl_cons, walkStep] at first second ⊢
    refine ⟨first, ?_⟩
    rw [second]
    simp [walkNodes]

/-- The walk over one node: it enters the node's scope, walks the children in order from there,
and leaves the scope; a message call gives its occurrence before those of its parts. -/
theorem visit_eq (ctx : FileCtx) (env : TypeEnv) (node : Node) :
    visit ctx env node =
      (leaveScope node (walkNodes ctx (enterScope env node) node.namedChildren).1,
        occurrenceAt ctx env node ++ (walkNodes ctx (enterScope env node) node.namedChildren).2) := by
  rw [visit.eq_def]
  extract_lets walk
  -- the fold over the children, with its accumulated pieces in reverse, is `walkNodes`
  have walk_eq : ∀ e, walk e = walkNodes ctx e node.namedChildren := by
    intro e
    simp only [walk]
    rw [List.foldl_ext _ (fun acc x => walkStep ctx acc x.1) _ (fun acc x _ => ?_), List.foldl_attach]
    · obtain ⟨first, second⟩ := foldl_walkStep ctx node.namedChildren e []
      generalize node.namedChildren.foldl (walkStep ctx) (e, []) = result at first second ⊢
      obtain ⟨inner, found⟩ := result
      simp only [List.reverse_nil, List.flatten_nil, List.nil_append] at first second
      simp [first, second]
    · rfl
  simp only [walk_eq]
  clear walk_eq
  clear_value walk
  -- one case per kind that `visit` tells apart; a function keeps the scope it opened in a
  -- local definition, which the first three cases unfold
  split
  case h_1 kind | h_2 kind | h_3 kind =>
    simp only [enterScope, leaveScope, occurrenceAt, kind]
    rfl
  case h_4 kind | h_5 kind | h_6 kind => simp [enterScope, leaveScope, occurrenceAt, kind]
  case h_7 kind => simp +zetaDelta [enterScope, leaveScope, occurrenceAt, kind]
  case h_8 => simp_all [enterScope, leaveScope, occurrenceAt]

/-! ## The walk in pre-order -/

/-- The environment the walk leaves after a node. -/
def envAfter (env : TypeEnv) (node : Node) : TypeEnv :=
  leaveScope node (node.namedChildren.attach.foldl (fun e c => envAfter e c.1) (enterScope env node))
termination_by sizeOf node
decreasing_by exact Node.sizeOf_lt_of_mem_namedChildren c.2

theorem envAfter_eq (env : TypeEnv) (node : Node) :
    envAfter env node = leaveScope node (node.namedChildren.foldl envAfter (enterScope env node)) := by
  rw [envAfter, List.foldl_attach]

/-- The environment the walk has when it reaches the node at `path`, a list of named-child
indices, below `node` reached with `env`. -/
def envAt (env : TypeEnv) (node : Node) : List Nat → TypeEnv
  | [] => env
  | i :: path =>
    match node.namedChildren[i]? with
    | some child => envAt ((node.namedChildren.take i).foldl envAfter (enterScope env node)) child path
    | none => env

/-- What the walk finds below `node` reached with `env`, read node by node. -/
def occurrencesBelow (ctx : FileCtx) (env : TypeEnv) (node : Node) :
    List (Except String Occurrence) :=
  node.preorder.flatMap fun (path, m) => occurrenceAt ctx (envAt env node path) m

theorem walkNodes_fst {ctx : FileCtx} {nodes : List Node}
    (each : ∀ c ∈ nodes, ∀ e, (visit ctx e c).1 = envAfter e c) (env : TypeEnv) :
    (walkNodes ctx env nodes).1 = nodes.foldl envAfter env := by
  induction nodes generalizing env with
  | nil => rfl
  | cons c cs ih =>
    simp only [walkNodes, List.foldl_cons]
    rw [ih (fun c' mem => each c' (List.mem_cons_of_mem c mem)), each c List.mem_cons_self]

theorem walkNodes_snd {ctx : FileCtx} {nodes : List Node}
    (first : ∀ c ∈ nodes, ∀ e, (visit ctx e c).1 = envAfter e c)
    (each : ∀ c ∈ nodes, ∀ e, (visit ctx e c).2 = occurrencesBelow ctx e c) (env : TypeEnv) :
    (walkNodes ctx env nodes).2 = nodes.zipIdx.flatMap fun p =>
      occurrencesBelow ctx ((nodes.take p.2).foldl envAfter env) p.1 := by
  induction nodes generalizing env with
  | nil => rfl
  | cons c cs ih =>
    have rest := ih (fun c' mem => first c' (List.mem_cons_of_mem c mem))
      (fun c' mem => each c' (List.mem_cons_of_mem c mem)) (envAfter env c)
    simp only [walkNodes]
    rw [first c List.mem_cons_self, each c List.mem_cons_self, rest]
    simp [List.zipIdx_succ, List.flatMap_map]

/-- The walk over a node gives, after the node, the environment `envAfter` computes, and the
occurrences of the nodes below it in pre-order, each read in the environment the walk has
when it reaches it. -/
theorem visit_eq_preorder (ctx : FileCtx) (env : TypeEnv) (node : Node) :
    visit ctx env node = (envAfter env node, occurrencesBelow ctx env node) := by
  have first : ∀ c ∈ node.namedChildren, ∀ e, (visit ctx e c).1 = envAfter e c :=
    fun c mem e => by rw [visit_eq_preorder ctx e c]
  have each : ∀ c ∈ node.namedChildren, ∀ e, (visit ctx e c).2 = occurrencesBelow ctx e c :=
    fun c mem e => by rw [visit_eq_preorder ctx e c]
  rw [visit_eq, walkNodes_fst first, walkNodes_snd first each, envAfter_eq]
  congr 1
  rw [occurrencesBelow, Node.preorder_eq, List.flatMap_cons, List.flatMap_assoc]
  congr 1
  apply List.flatMap_congr
  intro p mem
  obtain ⟨child, i⟩ := p
  have found : node.namedChildren[i]? = some child := List.mk_mem_zipIdx_iff_getElem?.mp mem
  simp [occurrencesBelow, List.flatMap_map, envAt, found]
termination_by sizeOf node
decreasing_by all_goals exact Node.sizeOf_lt_of_mem_namedChildren mem

/-! ## One call -/

/-- A literal the walk cuts the delimiters off: an interpreted or raw string literal of at least
two bytes. -/
def IsStringLiteral (source : String) (n : Node) : Prop :=
  (n.kind = "interpreted_string_literal" ∨ n.kind = "raw_string_literal") ∧
    2 ≤ (n.text source).utf8ByteSize

instance (source : String) (n : Node) : Decidable (IsStringLiteral source n) :=
  inferInstanceAs (Decidable (_ ∧ _))

/-- A text whose first and last characters, its delimiters, take one byte each. -/
def QuotedEnds (text : String) : Prop :=
  ∃ first inner last, text.toList = first :: inner ++ [last] ∧ first.utf8Size = 1 ∧
    last.utf8Size = 1

/-- A text without its first and last characters. -/
def innerText (text : String) : String := String.ofList (text.toList.drop 1).dropLast

theorem stripQuotes_of_quotedEnds {text : String} (ends : QuotedEnds text) :
    stripQuotes text = .ok (innerText text) := by
  obtain ⟨first, inner, last, split, narrow_first, narrow_last⟩ := ends
  have bytes := utf8ByteSize_eq_byteLength text
  have size : byteLength text.toList = byteLength (first :: inner) + 1 := by
    simp [split, narrow_last, Nat.add_assoc]
  have least : 1 ≤ byteLength (first :: inner) := by simp [narrow_first]
  -- both offsets fall between characters: after the opening delimiter and before the closing one
  have opening : cutAt text.toList 1 = .between [first] (inner ++ [last]) := by
    simpa [split, narrow_first] using cutAt_byteLength [first] (inner ++ [last])
  have closing : cutAt text.toList (byteLength text.toList - 1) =
      .between (first :: inner) [last] := by
    rw [size, Nat.add_sub_cancel, split]
    exact cutAt_byteLength (first :: inner) [last]
  have inside : innerText text = String.ofList inner := by simp [innerText, split]
  rw [stripQuotes, bytes, if_pos (by omega), sliceBytes, cutBytes, if_neg (by omega),
    if_neg (by omega), if_neg (by omega), opening, closing, inside]
  simp [Cut.before]

/-- An opening delimiter of more than one byte is cut inside. -/
theorem stripQuotes_of_wide_first {text : String} {first : Char} {rest : List Char}
    (split : text.toList = first :: rest) (wide : 1 < first.utf8Size) :
    stripQuotes text = .error ((CutFault.notBoundary 1 first 0).message text.toList) := by
  have bytes := utf8ByteSize_eq_byteLength text
  have size : byteLength text.toList = first.utf8Size + byteLength rest := by simp [split]
  have opening : cutAt text.toList 1 = .inside first 0 := by
    rw [split]
    exact cutAt_cons_inside rest (by decide) wide
  rw [stripQuotes, bytes, if_pos (by omega), sliceBytes, cutBytes, if_neg (by omega),
    if_neg (by omega), if_neg (by omega), opening]

/-- A closing delimiter of more than one byte, after an opening one of one byte, is cut
inside: this is the last character of a literal whose closing quote is missing. -/
theorem stripQuotes_of_wide_last {text : String} {first last : Char} {inner : List Char}
    (split : text.toList = first :: inner ++ [last]) (narrow : first.utf8Size = 1)
    (wide : 1 < last.utf8Size) :
    stripQuotes text = .error ((CutFault.notBoundary (text.utf8ByteSize - 1) last
      (byteLength (first :: inner))).message text.toList) := by
  have bytes := utf8ByteSize_eq_byteLength text
  have size : byteLength text.toList = byteLength (first :: inner) + last.utf8Size := by
    simp [split, Nat.add_assoc]
  have least : 1 ≤ byteLength (first :: inner) := by simp [narrow]
  have opening : cutAt text.toList 1 = .between [first] (inner ++ [last]) := by
    simpa [split, narrow] using cutAt_byteLength [first] (inner ++ [last])
  have closing : cutAt text.toList (byteLength text.toList - 1) =
      .inside last (byteLength (first :: inner)) := by
    have within : cutAt [last] (last.utf8Size - 1) = .inside last 0 :=
      cutAt_cons_inside [] (by omega) (by omega)
    rw [size, Nat.add_sub_assoc (by omega), split, cutAt_append, within]
    simp [Cut.after]
  rw [stripQuotes, bytes, if_pos (by omega), sliceBytes, cutBytes, if_neg (by omega),
    if_neg (by omega), if_neg (by omega), opening, closing]

example : stripQuotes "\"abcé" =
    .error "byte index 5 is not a char boundary; it is inside 'é' (bytes 4..6) of `\"abcé`" := by
  decide +kernel

/-- A text of at least two bytes loses its delimiters when both take one byte, and stops the
program otherwise. -/
theorem stripQuotes_cases {text : String} (long : 2 ≤ text.utf8ByteSize) :
    (QuotedEnds text ∧ stripQuotes text = .ok (innerText text)) ∨
      (¬ QuotedEnds text ∧ ∃ fault, stripQuotes text = .error fault) := by
  by_cases ends : QuotedEnds text
  · exact .inl ⟨ends, stripQuotes_of_quotedEnds ends⟩
  refine .inr ⟨ends, ?_⟩
  obtain ⟨first, rest, split⟩ : ∃ first rest, text.toList = first :: rest := by
    cases chars : text.toList with
    | nil => simp [utf8ByteSize_eq_byteLength, chars] at long
    | cons first rest => exact ⟨first, rest, rfl⟩
  by_cases wide : 1 < first.utf8Size
  · exact ⟨_, stripQuotes_of_wide_first split wide⟩
  have narrow : first.utf8Size = 1 := by have := first.utf8Size_pos; omega
  -- one byte does not fill the text, so a closing character follows
  obtain ⟨inner, last, rfl⟩ : ∃ inner last, rest = inner ++ [last] := by
    rcases List.eq_nil_or_concat rest with rfl | ⟨inner, last, concat⟩
    · simp [utf8ByteSize_eq_byteLength, split, narrow] at long
    · exact ⟨inner, last, by simp [concat]⟩
  have wide_last : 1 < last.utf8Size := by
    have := last.utf8Size_pos
    by_contra narrow_last
    exact ends ⟨first, inner, last, split, narrow, by omega⟩
  exact ⟨_, stripQuotes_of_wide_last split narrow wide_last⟩

/-- A string literal whose delimiters take one byte each. -/
def IsQuotedLiteral (source : String) (n : Node) : Prop :=
  IsStringLiteral source n ∧ QuotedEnds (n.text source)

theorem stringLiteral_eq (source : String) (n : Node) :
    stringLiteral source n =
      if IsStringLiteral source n then some <$> stripQuotes (n.text source) else pure none := by
  unfold stringLiteral IsStringLiteral
  by_cases kind : n.kind = "interpreted_string_literal" ∨ n.kind = "raw_string_literal"
  · have listed : (n.kind == "interpreted_string_literal" || n.kind == "raw_string_literal") = true := by
      simpa using kind
    by_cases size : 2 ≤ (n.text source).utf8ByteSize <;> simp [listed, kind, size]
  · have unlisted : ¬ (n.kind == "interpreted_string_literal" || n.kind == "raw_string_literal") = true := by
      simpa using kind
    simp [unlisted, kind]

theorem stringLiteral_eq_ok_some {source text : String} {n : Node} :
    stringLiteral source n = .ok (some text) ↔
      IsQuotedLiteral source n ∧ text = innerText (n.text source) := by
  rw [stringLiteral_eq]
  by_cases literal : IsStringLiteral source n
  · rcases stripQuotes_cases literal.2 with ⟨ends, cut⟩ | ⟨ends, fault, cut⟩
    · simp [literal, ends, cut, IsQuotedLiteral, eq_comm]
    · simp [literal, ends, cut, IsQuotedLiteral]
  · simp [literal, IsQuotedLiteral, pure, Except.pure]

theorem stringLiteral_eq_ok_none {source : String} {n : Node} :
    stringLiteral source n = .ok none ↔ ¬ IsStringLiteral source n := by
  rw [stringLiteral_eq]
  by_cases literal : IsStringLiteral source n
  · cases stripQuotes (n.text source) <;> simp [literal]
  · simp [literal, pure, Except.pure]

theorem stringLiteral_eq_error {source fault : String} {n : Node} :
    stringLiteral source n = .error fault ↔
      IsStringLiteral source n ∧ stripQuotes (n.text source) = .error fault := by
  rw [stringLiteral_eq]
  by_cases literal : IsStringLiteral source n
  · cases stripQuotes (n.text source) <;> simp [literal]
  · simp [literal, pure, Except.pure]

/-- The arguments of a call meet its roles: there is an argument for every role, and each one
in a role other than `skip` is a string literal whose delimiters take one byte each. Arguments
past the last role do not count. -/
def ArgumentsMatch (source : String) (roles : List Role) (args : List Node) : Prop :=
  roles.length ≤ args.length ∧ ∀ p ∈ roles.zip args, p.1 ≠ .skip → IsQuotedLiteral source p.2

/-- Reading the arguments in order stops at a literal it cannot cut out of its quotes, with
`fault`: the roles before it have arguments that meet them, and it stands in a role other than
`skip`. -/
def ArgumentsFault (source : String) (roles : List Role) (args : List Node) (fault : String) :
    Prop :=
  ∃ before role after earlier arg later, roles = before ++ role :: after ∧
    args = earlier ++ arg :: later ∧ earlier.length = before.length ∧
    ArgumentsMatch source before earlier ∧ role ≠ .skip ∧ IsStringLiteral source arg ∧
    stripQuotes (arg.text source) = .error fault

/-- The field of a role. -/
def CallFields.slot (fields : CallFields) : Role → String
  | .singular => fields.singular
  | .plural => fields.plural
  | .context => fields.context
  | .domain => fields.domain
  | .skip => ""

/-- The text of an argument without its delimiters, escapes as written. -/
def argumentText (source : String) (arg : Node) : String := innerText (arg.text source)

/-- The fields after reading the arguments in their roles, in order. -/
def readArguments (source : String) (pairs : List (Role × Node)) (fields : CallFields) : CallFields :=
  pairs.foldl (fun f p => f.put p.1 (argumentText source p.2)) fields

theorem argumentsMatch_cons {source : String} {role : Role} {roles : List Role} {arg : Node}
    {args : List Node} :
    ArgumentsMatch source (role :: roles) (arg :: args) ↔
      (role ≠ .skip → IsQuotedLiteral source arg) ∧ ArgumentsMatch source roles args := by
  simp only [ArgumentsMatch, List.length_cons, Nat.add_le_add_iff_right, List.zip_cons_cons,
    List.mem_cons, forall_eq_or_imp]
  tauto

/-- Reading stops at the first argument, or reads it and stops later. -/
theorem argumentsFault_cons {source fault : String} {role : Role} {roles : List Role} {arg : Node}
    {args : List Node} :
    ArgumentsFault source (role :: roles) (arg :: args) fault ↔
      (role ≠ .skip ∧ IsStringLiteral source arg ∧ stripQuotes (arg.text source) = .error fault) ∨
        ((role ≠ .skip → IsQuotedLiteral source arg) ∧ ArgumentsFault source roles args fault) := by
  constructor
  · rintro ⟨before, role', after, earlier, arg', later, roles_eq, args_eq, lengths, matched,
      counted, literal, cut⟩
    cases before with
    | nil =>
      -- the fault is at the first argument
      obtain rfl : earlier = [] := List.eq_nil_of_length_eq_zero lengths
      simp only [List.nil_append, List.cons.injEq] at roles_eq args_eq
      obtain ⟨rfl, -⟩ := roles_eq
      obtain ⟨rfl, -⟩ := args_eq
      exact .inl ⟨counted, literal, cut⟩
    | cons b before =>
      cases earlier with
      | nil => simp at lengths
      | cons e earlier =>
        simp only [List.cons_append, List.cons.injEq] at roles_eq args_eq
        obtain ⟨rfl, rfl⟩ := roles_eq
        obtain ⟨rfl, rfl⟩ := args_eq
        obtain ⟨first, rest⟩ := argumentsMatch_cons.mp matched
        exact .inr ⟨first, before, role', after, earlier, arg', later, rfl, rfl,
          by simpa using lengths, rest, counted, literal, cut⟩
  · rintro (⟨counted, literal, cut⟩ | ⟨first, before, role', after, earlier, arg', later, rfl, rfl,
      lengths, matched, counted, literal, cut⟩)
    · exact ⟨[], role, roles, [], arg, args, rfl, rfl, rfl, by simp [ArgumentsMatch], counted,
        literal, cut⟩
    · exact ⟨role :: before, role', after, arg :: earlier, arg', later, rfl, rfl,
        by simpa using lengths, argumentsMatch_cons.mpr ⟨first, matched⟩, counted, literal, cut⟩

theorem scanArguments_eq_ok_some {source : String} {roles : List Role} {args : List Node}
    {fields result : CallFields} :
    scanArguments source roles args fields = .ok (some result) ↔
      ArgumentsMatch source roles args ∧ result = readArguments source (roles.zip args) fields := by
  induction roles generalizing args fields with
  | nil => simp [scanArguments, ArgumentsMatch, readArguments, eq_comm, pure, Except.pure]
  | cons role roles ih =>
    cases args with
    | nil => simp [scanArguments, ArgumentsMatch, pure, Except.pure]
    | cons arg args =>
      rw [argumentsMatch_cons]
      by_cases skip : role = .skip
      · subst skip
        simp [scanArguments, readArguments, CallFields.put, ih]
      · rcases literal : stringLiteral source arg with fault | _ | text
        · have not_quoted : ¬ IsQuotedLiteral source arg := fun quoted => by
            simp [stringLiteral_eq_ok_some.mpr ⟨quoted, rfl⟩] at literal
          simp [scanArguments, skip, literal, not_quoted, bind, Except.bind]
        · have not_quoted : ¬ IsQuotedLiteral source arg := fun quoted => by
            simp [stringLiteral_eq_ok_some.mpr ⟨quoted, rfl⟩] at literal
          simp [scanArguments, skip, literal, not_quoted, bind, Except.bind, pure, Except.pure]
        · obtain ⟨quoted, rfl⟩ := stringLiteral_eq_ok_some.mp literal
          simp [scanArguments, skip, literal, quoted, ih, readArguments, argumentText, bind,
            Except.bind]

theorem scanArguments_eq_error {source fault : String} {roles : List Role} {args : List Node}
    {fields : CallFields} :
    scanArguments source roles args fields = .error fault ↔
      ArgumentsFault source roles args fault := by
  induction roles generalizing args fields with
  | nil =>
    simp only [scanArguments, pure, Except.pure, reduceCtorEq, false_iff]
    rintro ⟨before, _, _, _, _, _, roles_eq, -⟩
    simp at roles_eq
  | cons role roles ih =>
    cases args with
    | nil =>
      simp only [scanArguments, pure, Except.pure, reduceCtorEq, false_iff]
      rintro ⟨_, _, _, earlier, _, _, -, args_eq, -⟩
      simp at args_eq
    | cons arg args =>
      rw [argumentsFault_cons]
      by_cases skip : role = .skip
      · subst skip
        simp [scanArguments, ih]
      · rcases literal : stringLiteral source arg with cut_fault | _ | text
        · obtain ⟨is_literal, cut⟩ := stringLiteral_eq_error.mp literal
          have not_quoted : ¬ IsQuotedLiteral source arg := fun quoted => by
            simp [stringLiteral_eq_ok_some.mpr ⟨quoted, rfl⟩] at literal
          simp [scanArguments, skip, literal, is_literal, cut, not_quoted, bind, Except.bind]
        · have not_literal := stringLiteral_eq_ok_none.mp literal
          have not_quoted : ¬ IsQuotedLiteral source arg := fun quoted => not_literal quoted.1
          simp [scanArguments, skip, literal, not_literal, not_quoted, bind, Except.bind, pure,
            Except.pure]
        · obtain ⟨quoted, rfl⟩ := stringLiteral_eq_ok_some.mp literal
          have whole : stripQuotes (arg.text source) = .ok (innerText (arg.text source)) :=
            stripQuotes_of_quotedEnds quoted.2
          simp [scanArguments, skip, literal, quoted, whole, ih, bind, Except.bind]

/-- The text the last argument in `role` carries, or the empty text when no argument has it. -/
def lastText (source : String) (role : Role) (pairs : List (Role × Node)) : String :=
  match pairs.reverse.find? (·.1 = role) with
  | some p => argumentText source p.2
  | none => ""

theorem slot_put (fields : CallFields) {role r : Role} (text : String) (counted : r ≠ .skip) :
    (fields.put role text).slot r = if role = r then text else fields.slot r := by
  cases role <;> cases r <;> simp_all [CallFields.put, CallFields.slot]

/-- The last argument read into a field decides it. -/
theorem slot_readArguments (source : String) (pairs : List (Role × Node)) (fields : CallFields)
    {r : Role} (counted : r ≠ .skip) :
    (readArguments source pairs fields).slot r =
      match pairs.reverse.find? (·.1 = r) with
      | some p => argumentText source p.2
      | none => fields.slot r := by
  induction pairs generalizing fields with
  | nil => simp [readArguments]
  | cons p ps ih =>
    rw [readArguments, List.foldl_cons, ← readArguments, ih, List.reverse_cons, List.find?_append]
    cases later : ps.reverse.find? (·.1 = r) with
    | some q => simp
    | none =>
      by_cases same : p.1 = r <;> simp [slot_put _ _ counted, same]

/-- The roles a registry gives the first of `candidates` that it has a signature for. -/
def FirstSignature (registry : Registry) (candidates : List Callee) (roles : List Role) : Prop :=
  ∃ before c after, candidates = before ++ c :: after ∧
    registry.lookup c.fullName c.name = some roles ∧
    ∀ b ∈ before, registry.lookup b.fullName b.name = none

/-- The arguments of a call as they are matched: the named children of its argument list,
comments left out. -/
def callArguments (arguments : Node) : List Node :=
  arguments.namedChildren.filter (·.kind != "comment")

/-- `call` is a message call where the walk stands in `env`, and gives `o`: the first identity
of its callee with a signature gives the roles, its arguments meet them, and `o` holds the line
of the argument list and, in each field, the text of the last argument in that role. -/
def MessageCall (ctx : FileCtx) (env : TypeEnv) (call : Node) (o : Occurrence) : Prop :=
  ∃ function arguments roles,
    call.childByField "function" = some function ∧
    call.childByField "arguments" = some arguments ∧
    FirstSignature ctx.registry (env.calleeCandidates function) roles ∧
    ArgumentsMatch env.source roles (callArguments arguments) ∧
    o = { position := positionText ctx.path (arguments.start.row + 1),
          singular := lastText env.source .singular (roles.zip (callArguments arguments)),
          plural := lastText env.source .plural (roles.zip (callArguments arguments)),
          context := lastText env.source .context (roles.zip (callArguments arguments)),
          domain := lastText env.source .domain (roles.zip (callArguments arguments)) }

theorem lastText_eq_slot (source : String) (pairs : List (Role × Node)) {r : Role}
    (counted : r ≠ .skip) : lastText source r pairs = (readArguments source pairs {}).slot r := by
  rw [slot_readArguments source pairs {} counted, lastText]
  cases r <;> simp_all [CallFields.slot]

/-- Read from nothing, each field holds the text of the last argument in its role. -/
theorem readArguments_eq (source : String) (pairs : List (Role × Node)) :
    readArguments source pairs {} =
      { singular := lastText source .singular pairs, plural := lastText source .plural pairs,
        context := lastText source .context pairs, domain := lastText source .domain pairs } := by
  have singular := lastText_eq_slot source pairs (r := .singular) (by decide)
  have plural := lastText_eq_slot source pairs (r := .plural) (by decide)
  have context := lastText_eq_slot source pairs (r := .context) (by decide)
  have domain := lastText_eq_slot source pairs (r := .domain) (by decide)
  rw [singular, plural, context, domain]
  rfl

theorem firstSignature_iff {registry : Registry} {candidates : List Callee} {roles : List Role} :
    FirstSignature registry candidates roles ↔
      candidates.findSome? (fun c => registry.lookup c.fullName c.name) = some roles := by
  simp only [List.findSome?_eq_some_iff, FirstSignature]

/-- The first identity with a signature decides the roles. -/
theorem FirstSignature.unique {registry : Registry} {candidates : List Callee} {roles roles' : List Role}
    (first : FirstSignature registry candidates roles)
    (first' : FirstSignature registry candidates roles') : roles = roles' := by
  rw [firstSignature_iff] at first first'
  exact Option.some.inj (first.symm.trans first')

theorem dispatch_eq_some {ctx : FileCtx} {env : TypeEnv} {function : Node} {roles : List Role} :
    dispatch ctx env function = some roles ↔
      FirstSignature ctx.registry (env.calleeCandidates function) roles := by
  rw [firstSignature_iff, dispatch]

/-- `call` is a message call where the walk stands in `env` whose arguments cannot all be read:
the first identity of its callee with a signature gives the roles, and reading its arguments
stops at a literal that cannot be cut out of its quotes, with `fault`. -/
def FaultyCall (ctx : FileCtx) (env : TypeEnv) (call : Node) (fault : String) : Prop :=
  ∃ function arguments roles,
    call.childByField "function" = some function ∧
    call.childByField "arguments" = some arguments ∧
    FirstSignature ctx.registry (env.calleeCandidates function) roles ∧
    ArgumentsFault env.source roles (callArguments arguments) fault

/-- The message of a call whose callee has a signature and whose argument list is `arguments`,
with the fields read from its arguments. -/
def messageOf (ctx : FileCtx) (arguments : Node) (fields : CallFields) : Occurrence :=
  { position := positionText ctx.path (arguments.start.row + 1), singular := fields.singular,
    plural := fields.plural, context := fields.context, domain := fields.domain }

/-- A call with a callee that has a signature and with an argument list reads its arguments. -/
theorem callOccurrence_of_parts {ctx : FileCtx} {env : TypeEnv} {call function arguments : Node}
    {roles : List Role} (function_eq : call.childByField "function" = some function)
    (found : dispatch ctx env function = some roles)
    (listed : call.childByField "arguments" = some arguments) :
    callOccurrence ctx env call =
      (scanArguments env.source roles (callArguments arguments) {}).map
        (Option.map (messageOf ctx arguments)) := by
  unfold callOccurrence callArguments
  simp only [function_eq, Option.bind_some, found, listed]
  cases scanArguments env.source roles _ {} <;> rfl

/-- Any other call gives nothing. -/
theorem callOccurrence_of_no_parts {ctx : FileCtx} {env : TypeEnv} {call : Node}
    (none_found : ∀ function arguments roles, call.childByField "function" = some function →
      call.childByField "arguments" = some arguments → dispatch ctx env function ≠ some roles) :
    callOccurrence ctx env call = .ok none := by
  unfold callOccurrence
  split
  · next roles arguments found listed =>
    obtain ⟨function, function_eq, dispatched⟩ := Option.bind_eq_some_iff.mp found
    exact absurd dispatched (none_found function arguments roles function_eq listed)
  · rfl

/-- Whether a call has a callee with a signature and an argument list. -/
def HasParts (ctx : FileCtx) (env : TypeEnv) (call : Node) : Prop :=
  ∃ function arguments roles, call.childByField "function" = some function ∧
    call.childByField "arguments" = some arguments ∧ dispatch ctx env function = some roles

theorem callOccurrence_eq_ok_some {ctx : FileCtx} {env : TypeEnv} {call : Node} {o : Occurrence} :
    callOccurrence ctx env call = .ok (some o) ↔ MessageCall ctx env call o := by
  by_cases parts : HasParts ctx env call
  · obtain ⟨function, arguments, roles, function_eq, listed, found⟩ := parts
    have first := dispatch_eq_some.mp found
    -- the call's callee, argument list and roles are fixed, so only its arguments are left
    have message : MessageCall ctx env call o ↔ ArgumentsMatch env.source roles
        (callArguments arguments) ∧ o = messageOf ctx arguments
          (readArguments env.source (roles.zip (callArguments arguments)) {}) := by
      simp only [MessageCall, function_eq, listed, Option.some.injEq, exists_and_left,
        exists_eq_left', readArguments_eq, messageOf]
      exact ⟨fun ⟨roles', first', matched, made⟩ => by
          obtain rfl := FirstSignature.unique first first'
          exact ⟨matched, made⟩,
        fun ⟨matched, made⟩ => ⟨roles, first, matched, made⟩⟩
    rw [callOccurrence_of_parts function_eq found listed, message]
    rcases scanned : scanArguments env.source roles (callArguments arguments) {} with
      fault | _ | fields
    · have unmatched : ¬ ArgumentsMatch env.source roles (callArguments arguments) :=
        fun matched => by simp [scanArguments_eq_ok_some.mpr ⟨matched, rfl⟩] at scanned
      simp [Except.map, unmatched]
    · have unmatched : ¬ ArgumentsMatch env.source roles (callArguments arguments) :=
        fun matched => by simp [scanArguments_eq_ok_some.mpr ⟨matched, rfl⟩] at scanned
      simp [Except.map, unmatched]
    · obtain ⟨matched, rfl⟩ := scanArguments_eq_ok_some.mp scanned
      simp [Except.map, matched, eq_comm]
  · rw [callOccurrence_of_no_parts fun function arguments roles function_eq listed found =>
      parts ⟨function, arguments, roles, function_eq, listed, found⟩]
    simp only [Except.ok.injEq, reduceCtorEq, false_iff]
    rintro ⟨function, arguments, roles, function_eq, listed, first, -⟩
    exact parts ⟨function, arguments, roles, function_eq, listed, dispatch_eq_some.mpr first⟩

theorem callOccurrence_eq_error {ctx : FileCtx} {env : TypeEnv} {call : Node} {fault : String} :
    callOccurrence ctx env call = .error fault ↔ FaultyCall ctx env call fault := by
  by_cases parts : HasParts ctx env call
  · obtain ⟨function, arguments, roles, function_eq, listed, found⟩ := parts
    have first := dispatch_eq_some.mp found
    have faulty : FaultyCall ctx env call fault ↔
        ArgumentsFault env.source roles (callArguments arguments) fault := by
      simp only [FaultyCall, function_eq, listed, Option.some.injEq, exists_and_left,
        exists_eq_left']
      exact ⟨fun ⟨roles', first', stopped⟩ => by
          obtain rfl := FirstSignature.unique first first'
          exact stopped,
        fun stopped => ⟨roles, first, stopped⟩⟩
    have stopped := @scanArguments_eq_error env.source fault roles (callArguments arguments) {}
    rw [callOccurrence_of_parts function_eq found listed, faulty, ← stopped]
    cases scanArguments env.source roles (callArguments arguments) {} <;> simp [Except.map]
  · rw [callOccurrence_of_no_parts fun function arguments roles function_eq listed found =>
      parts ⟨function, arguments, roles, function_eq, listed, found⟩]
    simp only [reduceCtorEq, false_iff]
    rintro ⟨function, arguments, roles, function_eq, listed, first, -⟩
    exact parts ⟨function, arguments, roles, function_eq, listed, dispatch_eq_some.mpr first⟩

/-- What a call gives the walk, read off its occurrence. -/
theorem ok_mem_callFindings {ctx : FileCtx} {env : TypeEnv} {call : Node} {o : Occurrence} :
    .ok o ∈ callFindings ctx env call ↔ callOccurrence ctx env call = .ok (some o) := by
  unfold callFindings
  rcases callOccurrence ctx env call with fault | _ | found <;> simp [eq_comm]

theorem error_mem_callFindings {ctx : FileCtx} {env : TypeEnv} {call : Node} {fault : String} :
    .error fault ∈ callFindings ctx env call ↔ callOccurrence ctx env call = .error fault := by
  unfold callFindings
  rcases callOccurrence ctx env call with fault' | _ | found <;> simp [eq_comm]

theorem length_callFindings_le (ctx : FileCtx) (env : TypeEnv) (call : Node) :
    (callFindings ctx env call).length ≤ 1 := by
  unfold callFindings
  rcases callOccurrence ctx env call with fault | _ | found <;> simp

theorem ok_mem_occurrenceAt {ctx : FileCtx} {env : TypeEnv} {node : Node} {o : Occurrence} :
    .ok o ∈ occurrenceAt ctx env node ↔
      node.kind = "call_expression" ∧ MessageCall ctx env node o := by
  unfold occurrenceAt
  by_cases call : node.kind = "call_expression"
  · simp [call, ok_mem_callFindings, callOccurrence_eq_ok_some]
  · simp [call]

theorem error_mem_occurrenceAt {ctx : FileCtx} {env : TypeEnv} {node : Node} {fault : String} :
    .error fault ∈ occurrenceAt ctx env node ↔
      node.kind = "call_expression" ∧ FaultyCall ctx env node fault := by
  unfold occurrenceAt
  by_cases call : node.kind = "call_expression"
  · simp [call, error_mem_callFindings, callOccurrence_eq_error]
  · simp [call]

theorem length_occurrenceAt_le (ctx : FileCtx) (env : TypeEnv) (node : Node) :
    (occurrenceAt ctx env node).length ≤ 1 := by
  unfold occurrenceAt
  split
  · exact length_callFindings_le ctx env node
  · simp

/-! ## A package -/

/-- The environment a file's walk starts from: the package's top-level names, the file's imports,
no local scope. -/
def fileEnv (scope : PackageScope) (file : GoFile) : TypeEnv :=
  { package := scope, imports := Imports.table file.tree file.source, source := file.source }

/-- Reading the files one by one gives their findings in order, up to the first fault. -/
theorem mapM_files_flatten {files : List GoFile} (findings : GoFile → List (Except String Occurrence)) :
    (files.mapM fun file => (findings file).mapM id) >>= (fun found => pure found.flatten) =
      (files.flatMap findings).mapM id := by
  induction files with
  | nil => rfl
  | cons file files ih =>
    rw [List.mapM_cons, List.flatMap_cons, List.mapM_append, ← ih]
    simp only [bind_assoc, pure_bind, List.flatten_cons]

end Localize.Go
