import Localize.Parsing.Table

/-! # Subtrees

The parser builds its tree bottom-up from subtrees: tokens from the lexer, and nodes made by
reductions from the subtrees on top of the stack. Each subtree knows where it lies in the text
(the whitespace before it, its own text) and a few counts that the parser compares versions
by.

Error recovery makes its cost visible here. A token supplied without text (a missing token)
costs a recovery and a missing tree. An error node costs a recovery, one per skipped byte,
thirty per line it spans, and a hundred per visible subtree it swallowed. The other nodes
cost what their children cost. Dynamic precedences add up the same way, so that of two
readings of the same text the parser can keep the one the grammar prefers.
-/

namespace Localize.Parsing

/-- A place in the text: the byte offset and the line, counted from `0`. -/
structure Point where
  byte : Nat
  row : Nat
deriving Repr, Inhabited, BEq, DecidableEq

/-- A place in the text together with the text from there on. -/
structure Cursor where
  point : Point
  rest : List Char
deriving Inhabited

/-- The cursor at the start of a text. -/
def Cursor.start (text : String) : Cursor := ⟨⟨0, 0⟩, text.toList⟩

/-- The cursor one character further. -/
def Cursor.advance (c : Cursor) : Cursor :=
  match c.rest with
  | [] => c
  | ch :: rest =>
    ⟨⟨c.point.byte + ch.utf8Size, if ch == '\n' then c.point.row + 1 else c.point.row⟩, rest⟩

/-- The cursor `n` characters further. -/
def Cursor.advanceBy (c : Cursor) : Nat → Cursor
  | 0 => c
  | n + 1 => (c.advance).advanceBy n

/-- What a tree needs to know about a symbol: its name, whether its nodes are visible, and
whether they are named. -/
structure SymbolInfo where
  name : String
  visible : Bool
  named : Bool
deriving Repr, Inhabited

/-- A grammar's symbols and productions as its trees see them. -/
structure Symbols where
  info : Array SymbolInfo
  shapes : Array ProductionShape
deriving Inhabited

/-- The information of a symbol; the two error symbols are `ERROR`, visible and named, and
an invisible helper. -/
def Symbols.get (syms : Symbols) (symbol : Nat) : SymbolInfo :=
  if symbol == errorSymbol then ⟨"ERROR", true, true⟩
  else if symbol == errorRepeatSymbol then ⟨"_ERROR", false, false⟩
  else syms.info.getD symbol ⟨"", false, false⟩

/-- The shape of production `production`. -/
def Symbols.shape (syms : Symbols) (production : Nat) : ProductionShape :=
  syms.shapes.getD production ⟨#[], #[]⟩

/-- The cost of starting to recover from an error. -/
def costPerRecovery : Nat := 500

/-- The cost of a token that was supplied without text. -/
def costPerMissingTree : Nat := 110

/-- The cost of each visible subtree that an error swallows. -/
def costPerSkippedTree : Nat := 100

/-- The cost of each line that an error spans. -/
def costPerSkippedLine : Nat := 30

/-- The cost of each byte that an error spans. -/
def costPerSkippedChar : Nat := 1

/-- What a subtree knows about itself. `padStart` is where the whitespace before it starts,
`start` where its text starts and `stop` where it ends. -/
structure Facts where
  symbol : Nat
  padStart : Point
  start : Point
  stop : Cursor
  errorCost : Nat := 0
  dynamicPrecedence : Int := 0
  visibleChildCount : Nat := 0
  namedChildCount : Nat := 0
  visibleDescendantCount : Nat := 0
  visible : Bool
  named : Bool
  extra : Bool := false
  missing : Bool := false
  keyword : Bool := false
  production : Nat := 0
deriving Inhabited

/-- A token or a node with its children. -/
inductive Subtree where
  | mk (facts : Facts) (children : Array Subtree)
deriving Inhabited

namespace Subtree

/-- What the subtree knows about itself. -/
def facts : Subtree → Facts
  | mk f _ => f

/-- The children; a token has none. -/
def children : Subtree → Array Subtree
  | mk _ cs => cs

/-- The symbol. -/
def symbol (t : Subtree) : Nat := t.facts.symbol

/-- Whether the subtree is an error node or skipped text. -/
def isError (t : Subtree) : Bool := t.symbol == errorSymbol

/-- Whether the subtree is an extra, such as a comment, which the grammar allows anywhere. -/
def extra (t : Subtree) : Bool := t.facts.extra

/-- The error cost. -/
def errorCost (t : Subtree) : Nat :=
  if t.facts.missing then costPerMissingTree + costPerRecovery else t.facts.errorCost

/-- The dynamic precedence; a token has none. -/
def dynamicPrecedence (t : Subtree) : Int :=
  if t.children.isEmpty then 0 else t.facts.dynamicPrecedence

/-- The bytes that the subtree and the whitespace before it span. -/
def totalBytes (t : Subtree) : Nat := t.facts.stop.point.byte - t.facts.padStart.byte

/-- The line breaks that the subtree and the whitespace before it span. -/
def totalRows (t : Subtree) : Nat := t.facts.stop.point.row - t.facts.padStart.row

/-- The subtree marked as an extra or not. -/
def setExtra (t : Subtree) (extra : Bool) : Subtree :=
  mk { t.facts with extra } t.children

/-- The token read as another symbol. -/
def setSymbol (syms : Symbols) (t : Subtree) (symbol : Nat) : Subtree :=
  let info := syms.get symbol
  mk { t.facts with symbol, visible := info.visible, named := info.named } t.children

/-- The subtree with `d` added to its dynamic precedence. -/
def addDynamicPrecedence (t : Subtree) (d : Int) : Subtree :=
  mk { t.facts with dynamicPrecedence := t.facts.dynamicPrecedence + d } t.children

/-- How many nodes a subtree adds to a stack: its visible descendants, itself when visible,
and itself when it gathers skipped tokens, so that skipping counts as progress. -/
def stackNodeCount (t : Subtree) : Nat :=
  t.facts.visibleDescendantCount + (if t.facts.visible then 1 else 0) +
    (if t.symbol == errorRepeatSymbol then 1 else 0)

/-- A token of `symbol` whose whitespace starts at `padStart` and whose text runs from `start`
to `stop`. The end of the text is an extra. -/
def leaf (syms : Symbols) (symbol : Nat) (padStart start : Point) (stop : Cursor)
    (keyword : Bool) : Subtree :=
  let info := syms.get symbol
  mk { symbol, padStart, start, stop, visible := info.visible, named := info.named,
       extra := symbol == 0, keyword } #[]

/-- A token of `symbol` supplied without text at `at`. -/
def missingLeaf (syms : Symbols) (symbol : Nat) (pos : Cursor) : Subtree :=
  let info := syms.get symbol
  mk { symbol, padStart := pos.point, start := pos.point, stop := pos,
       visible := info.visible, named := info.named, missing := true } #[]

/-- The counts a node of `symbol` gathers from its children: error cost, dynamic precedence,
visible children, named children and visible descendants. Children that the production
renames count as visible, and named when the new name is. A hidden child counts through its
own children. A node that holds skipped text also pays for each visible subtree in it. -/
def gather (syms : Symbols) (symbol production : Nat) (children : Array Subtree) :
    Nat × Int × Nat × Nat × Nat :=
  let isErrorNode := symbol == errorSymbol || symbol == errorRepeatSymbol
  let shape := syms.shape production
  let step := fun (acc : Nat × Int × Nat × Nat × Nat × Nat) (c : Subtree) =>
    let (cost, dyn, vcc, ncc, vdc, index) := acc
    let cost := if c.symbol != errorRepeatSymbol then cost + c.errorCost else cost
    let cost :=
      if isErrorNode && !c.extra && !(c.isError && c.children.isEmpty) then
        if c.facts.visible then cost + costPerSkippedTree
        else if !c.children.isEmpty then cost + costPerSkippedTree * c.facts.visibleChildCount
        else cost
      else cost
    let dyn := dyn + c.dynamicPrecedence
    let vdc := vdc + c.facts.visibleDescendantCount
    let renamed := if c.extra then none else (shape.aliases.find? (·.1 == index)).map (·.2)
    let (vcc, ncc, vdc) := match renamed with
      | some (_, aliasNamed) => (vcc + 1, if aliasNamed then ncc + 1 else ncc, vdc + 1)
      | none =>
        if c.facts.visible then (vcc + 1, if c.facts.named then ncc + 1 else ncc, vdc + 1)
        else if !c.children.isEmpty then
          (vcc + c.facts.visibleChildCount, ncc + c.facts.namedChildCount, vdc)
        else (vcc, ncc, vdc)
    (cost, dyn, vcc, ncc, vdc, if c.extra then index else index + 1)
  let (cost, dyn, vcc, ncc, vdc, _) := children.foldl step (0, 0, 0, 0, 0, 0)
  (cost, dyn, vcc, ncc, vdc)

/-- A node of `symbol` built by production shape `production` from `children`; an empty node
lies at `pos`. -/
def node (syms : Symbols) (symbol : Nat) (children : Array Subtree) (production : Nat)
    (pos : Cursor) : Subtree :=
  let info := syms.get symbol
  let (padStart, start) := match children[0]? with
    | some c => (c.facts.padStart, c.facts.start)
    | none => (pos.point, pos.point)
  let stop := match children.back? with
    | some c => c.facts.stop
    | none => pos
  let (cost, dyn, vcc, ncc, vdc) := gather syms symbol production children
  let cost :=
    if symbol == errorSymbol || symbol == errorRepeatSymbol then
      cost + costPerRecovery + costPerSkippedChar * (stop.point.byte - start.byte) +
        costPerSkippedLine * (stop.point.row - start.row)
    else cost
  mk { symbol, padStart, start, stop, errorCost := cost, dynamicPrecedence := dyn,
       visibleChildCount := vcc, namedChildCount := ncc, visibleDescendantCount := vdc,
       visible := info.visible, named := info.named, production } children

/-- An error node holding `children`, an extra or not. -/
def errorNode (syms : Symbols) (children : Array Subtree) (extra : Bool) (pos : Cursor) :
    Subtree :=
  (node syms errorSymbol children 0 pos).setExtra extra

/-- The symbols and child counts of a subtree's nodes in pre-order. -/
def shapeOrder : Subtree → List (Nat × Nat)
  | mk f cs => (f.symbol, cs.size) :: (cs.attach.toList.flatMap fun ⟨c, _⟩ => shapeOrder c)
termination_by t => sizeOf t
decreasing_by
  have := Array.sizeOf_lt_of_mem (by assumption)
  simp only [mk.sizeOf_spec]
  omega

/-- Compares two subtrees node by node in pre-order, by symbol and then by child count. -/
def compare (a b : Subtree) : Ordering :=
  go a.shapeOrder b.shapeOrder
where
  /-- Compares the pre-order lists. -/
  go : List (Nat × Nat) → List (Nat × Nat) → Ordering
    | [], [] => .eq
    | [], _ :: _ => .lt
    | _ :: _, [] => .gt
    | (s, n) :: xs, (t, m) :: ys =>
      if s < t then .lt else if t < s then .gt
      else if n < m then .lt else if m < n then .gt
      else go xs ys

end Subtree

end Localize.Parsing
