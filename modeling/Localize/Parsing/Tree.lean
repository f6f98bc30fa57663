import Localize.Parsing.Subtree

/-! # Syntax trees

The tree that readers see. Hidden nodes (helper rules of the grammar, repetitions, and the
supertypes that group alternatives) are left out, their children standing in their place; a
child that its production renames is shown under the new name. Each node carries the field
name under which its parent holds it: its own, or else that of the nearest hidden node it
stands in for. Extras, such as comments, hold no field.

A node's children are its visible children in order; its named children leave out punctuation
and keywords. Error nodes are named `ERROR`, and tokens that error recovery supplied without
text are marked missing.
-/

namespace Localize.Parsing

/-- A node of a syntax tree. -/
structure Node where
  kind : String
  named : Bool
  field : Option String
  start : Point
  stop : Point
  extra : Bool
  missing : Bool
  children : List Node
deriving Inhabited

namespace Node

/-- The named children. -/
def namedChildren (n : Node) : List Node := n.children.filter (·.named)

/-- The first child held under field `name`. -/
def childByField (n : Node) (name : String) : Option Node :=
  n.children.find? (·.field == some name)

/-- The children held under field `name`, in order. -/
def childrenByField (n : Node) (name : String) : List Node :=
  n.children.filter (·.field == some name)

/-- The text of the node in `source`. -/
def text (n : Node) (source : String) : String :=
  String.Pos.Raw.extract source ⟨n.start.byte⟩ ⟨n.stop.byte⟩

/-- The first named child. -/
def firstNamed (n : Node) : Option Node := n.namedChildren.head?

/-- A child is smaller than its parent, which makes walks over children terminate. -/
theorem sizeOf_lt_of_mem_children {n c : Node} (h : c ∈ n.children) : sizeOf c < sizeOf n := by
  cases n with
  | mk kind named field start stop extra missing children =>
    have : sizeOf c < sizeOf children := List.sizeOf_lt_of_mem h
    simp only [Node.mk.sizeOf_spec]
    omega

theorem sizeOf_lt_of_mem_namedChildren {n c : Node} (h : c ∈ n.namedChildren) :
    sizeOf c < sizeOf n :=
  sizeOf_lt_of_mem_children (List.mem_filter.mp h).1

theorem sizeOf_lt_of_firstNamed {n c : Node} (h : n.firstNamed = some c) :
    sizeOf c < sizeOf n :=
  sizeOf_lt_of_mem_namedChildren (List.mem_of_head? h)

theorem sizeOf_lt_of_childByField {n c : Node} {name : String} (h : n.childByField name = some c) :
    sizeOf c < sizeOf n :=
  sizeOf_lt_of_mem_children (List.mem_of_find?_eq_some h)

end Node

/-- Appends to `out` the nodes that subtree `t` shows, given the name its parent's production
gives it and the field it is held under: itself when visible or renamed, or else the nodes of
its children. A child's field is its own in the production, or else, below a hidden node, the
field of that node; extras hold none. -/
def Subtree.viewInto (syms : Symbols) (t : Subtree) (renamed : Option (String × Bool))
    (field : Option String) (out : Array Node) : Array Node :=
  let shape := syms.shape t.facts.production
  let info := syms.get t.symbol
  let (kind, named, visible) := match renamed with
    | some (name, aliasNamed) => (name, aliasNamed, true)
    | none => (info.name, t.facts.named, t.facts.visible)
  let inherited := if visible then none else field
  let kids := fun (into : Array Node) =>
    (t.children.attach.foldl (fun (acc : Array Node × Nat) ⟨c, _⟩ =>
      let (into, index) := acc
      let renamed := if c.extra then none else (shape.aliases.find? (·.1 == index)).map (·.2)
      let own := (shape.fields.find? (·.1 == index)).map (·.2)
      let field := if c.extra then none else own.orElse fun _ => inherited
      (c.viewInto syms renamed field into, if c.extra then index else index + 1)) (into, 0)).1
  if visible then
    out.push { kind, named, field, start := t.facts.start, stop := t.facts.stop.point,
               extra := t.extra, missing := t.facts.missing, children := (kids #[]).toList }
  else kids out
termination_by sizeOf t
decreasing_by
  have := Array.sizeOf_lt_of_mem (by assumption)
  cases t
  simp only [Subtree.children, Subtree.mk.sizeOf_spec] at *
  omega

/-- The nodes that subtree `t` shows (see `Subtree.viewInto`). -/
def Subtree.view (syms : Symbols) (t : Subtree) (renamed : Option (String × Bool))
    (field : Option String) : List Node :=
  (t.viewInto syms renamed field #[]).toList

/-- The syntax tree of a parsed text: the root node. -/
def Subtree.toNode (syms : Symbols) (t : Subtree) : Node :=
  (t.view syms none none).headD
    { kind := (syms.get t.symbol).name, named := true, field := none, start := t.facts.start,
      stop := t.facts.stop.point, extra := false, missing := false, children := [] }

end Localize.Parsing
