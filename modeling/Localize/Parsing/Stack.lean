import Localize.Parsing.Subtree

/-! # The parse stack

A parser that follows several readings at once keeps them in one graph-structured stack. Each
stack node holds a parse state and a place in the text, and links down to the nodes below it,
each link carrying the subtree pushed there. A version of the stack is a head node; versions
that reach the same state at the same place with the same error cost are merged into one
node with several links, so that a later reduction sees every path through them.

Every version is active, paused at a token it cannot parse, or halted. A node remembers the
error cost, the number of visible nodes and the dynamic precedence of the best path below it,
which is what versions are compared by.

Popping `n` subtrees follows every path of `n` links (extras do not count) and gives one slice
per path; paths that end at the same node share a new version. At most eight links are kept
per node and at most sixty-four paths are followed.
-/

namespace Localize.Parsing

/-- A link from a stack node down to the node below, with the subtree pushed between them;
`none` marks where error recovery began. -/
structure Link where
  node : Nat
  subtree : Option Subtree
  pending : Bool := false
deriving Inhabited

/-- A node of the stack. -/
structure StackNode where
  state : Nat
  position : Cursor
  links : Array Link
  errorCost : Nat
  nodeCount : Nat
  dynamicPrecedence : Int
deriving Inhabited

/-- A state found below a version's head, at `depth` subtrees down, and where it stood. -/
structure SummaryEntry where
  position : Point
  depth : Nat
  state : Nat
deriving Inhabited

/-- Whether a version goes on, waits for error recovery, or has stopped. -/
inductive Status where
  | active
  | paused
  | halted
deriving BEq, Inhabited

/-- A version of the stack. -/
structure Head where
  node : Nat
  summary : Option (Array SummaryEntry) := none
  nodeCountAtLastError : Nat := 0
  lookaheadWhenPaused : Option Subtree := none
  status : Status := .active
deriving Inhabited

/-- The subtrees popped along one path, bottom first, and the version left at its end. -/
structure Slice where
  subtrees : Array Subtree
  version : Nat
deriving Inhabited

/-- A graph-structured stack: its nodes, by index, and its versions. -/
structure Stack where
  nodes : Array StackNode
  heads : Array Head
deriving Inhabited

/-- The most links a node keeps. -/
def maxLinkCount : Nat := 8

/-- The most paths a pop follows. -/
def maxIteratorCount : Nat := 64

/-- How deep a summary of the states below a head goes. -/
def maxSummaryDepth : Nat := 16

namespace Stack

/-- A stack with one version, in the start state at `start`. -/
def init (start : Cursor) : Stack :=
  ⟨#[⟨startState, start, #[], 0, 0, 0⟩], #[{ node := 0 }]⟩

/-- The node at index `i`. -/
def node (s : Stack) (i : Nat) : StackNode := s.nodes.getD i default

/-- Version `v`. -/
def head (s : Stack) (v : Nat) : Head := s.heads.getD v default

/-- The number of versions. -/
def versionCount (s : Stack) : Nat := s.heads.size

/-- The head node of version `v`. -/
def top (s : Stack) (v : Nat) : StackNode := s.node (s.head v).node

/-- The state of version `v`. -/
def state (s : Stack) (v : Nat) : Nat := (s.top v).state

/-- Where version `v` stands in the text. -/
def position (s : Stack) (v : Nat) : Cursor := (s.top v).position

/-- The dynamic precedence of version `v`. -/
def dynamicPrecedence (s : Stack) (v : Nat) : Int := (s.top v).dynamicPrecedence

/-- Whether version `v` is active. -/
def isActive (s : Stack) (v : Nat) : Bool := (s.head v).status == .active

/-- Whether version `v` is paused. -/
def isPaused (s : Stack) (v : Nat) : Bool := (s.head v).status == .paused

/-- Whether version `v` is halted. -/
def isHalted (s : Stack) (v : Nat) : Bool := (s.head v).status == .halted

/-- Changes version `v`. -/
def modifyHead (s : Stack) (v : Nat) (f : Head → Head) : Stack :=
  { s with heads := s.heads.modify v f }

/-- Changes the node at index `i`. -/
def modifyNode (s : Stack) (i : Nat) (f : StackNode → StackNode) : Stack :=
  { s with nodes := s.nodes.modify i f }

/-- The error cost of version `v`, with the cost of a recovery added when it is paused or has
just entered the error state. -/
def errorCost (s : Stack) (v : Nat) : Nat :=
  let h := s.head v
  let n := s.node h.node
  let entering := n.state == errorState &&
    match n.links[0]? with
    | some l => l.subtree.isNone
    | none => false
  if h.status == .paused || entering then n.errorCost + costPerRecovery else n.errorCost

/-- The number of visible nodes pushed on version `v` since its last error; the count
recorded at the error is lowered when the version has since lost nodes. -/
def nodeCountSinceError (s : Stack) (v : Nat) : Nat × Stack :=
  let h := s.head v
  let count := (s.node h.node).nodeCount
  if count < h.nodeCountAtLastError then
    (0, s.modifyHead v fun h => { h with nodeCountAtLastError := count })
  else (count - h.nodeCountAtLastError, s)

/-- Adds a node above `previous`, linked by `subtree`, in `state`; answers the stack and the
new node's index. -/
def newNode (s : Stack) (previous : Nat) (subtree : Option Subtree) (pending : Bool)
    (state : Nat) : Stack × Nat :=
  let p := s.node previous
  let n : StackNode := match subtree with
    | some t =>
      { state, position := t.facts.stop, links := #[⟨previous, subtree, pending⟩],
        errorCost := p.errorCost + t.errorCost, nodeCount := p.nodeCount + t.stackNodeCount,
        dynamicPrecedence := p.dynamicPrecedence + t.dynamicPrecedence }
    | none =>
      { state, position := p.position, links := #[⟨previous, none, pending⟩],
        errorCost := p.errorCost, nodeCount := p.nodeCount,
        dynamicPrecedence := p.dynamicPrecedence }
  let i := s.nodes.size
  ({ s with nodes := s.nodes.push n }, i)

/-- Pushes `subtree` on version `v` and moves it to `state`. Pushing no subtree marks the
start of error recovery, and the version's node count is recorded there. -/
def push (s : Stack) (v : Nat) (subtree : Option Subtree) (pending : Bool) (state : Nat) :
    Stack :=
  let (s, i) := s.newNode (s.head v).node subtree pending state
  s.modifyHead v fun h =>
    { h with node := i,
             nodeCountAtLastError :=
               if subtree.isNone then (s.node i).nodeCount else h.nodeCountAtLastError }

/-- Pauses version `v` at the token it cannot parse. -/
def pause (s : Stack) (v : Nat) (lookahead : Subtree) : Stack :=
  s.modifyHead v fun h =>
    { h with status := .paused, lookaheadWhenPaused := some lookahead,
             nodeCountAtLastError := (s.node h.node).nodeCount }

/-- Resumes a paused version; answers the token it was paused at. -/
def resume (s : Stack) (v : Nat) : Stack × Option Subtree :=
  let h := s.head v
  (s.modifyHead v fun h => { h with status := .active, lookaheadWhenPaused := none },
    h.lookaheadWhenPaused)

/-- Halts version `v`. -/
def halt (s : Stack) (v : Nat) : Stack :=
  s.modifyHead v fun h => { h with status := .halted }

/-- Removes version `v`; the later versions move down by one. -/
def removeVersion (s : Stack) (v : Nat) : Stack :=
  { s with heads := s.heads.eraseIdxIfInBounds v }

/-- Puts version `v1` in the place of version `v2` (`v2 < v1`), removing `v1` from its place.
A summary of `v2` moves along when `v1` has none. -/
def renumber (s : Stack) (v1 v2 : Nat) : Stack :=
  if v1 == v2 then s
  else
    let source := s.head v1
    let target := s.head v2
    let source :=
      if target.summary.isSome && source.summary.isNone then { source with summary := target.summary }
      else source
    { s with heads := (s.heads.set! v2 source).eraseIdxIfInBounds v1 }

/-- Swaps versions `v1` and `v2`. -/
def swap (s : Stack) (v1 v2 : Nat) : Stack :=
  let h1 := s.head v1
  let h2 := s.head v2
  { s with heads := (s.heads.set! v1 h2).set! v2 h1 }

/-- Adds a copy of version `v`, without its summary; answers the stack and the copy. -/
def copyVersion (s : Stack) (v : Nat) : Stack × Nat :=
  ({ s with heads := s.heads.push { s.head v with summary := none } }, s.heads.size)

/-- Adds an active version at `node`, taking the error count of version `base`. -/
def addVersion (s : Stack) (base node : Nat) : Stack × Nat :=
  let h : Head := { node, nodeCountAtLastError := (s.head base).nodeCountAtLastError }
  ({ s with heads := s.heads.push h }, s.heads.size)

/-- Whether versions `v1` and `v2` can be merged: both active, in the same state at the same
place, with the same error cost. -/
def canMerge (s : Stack) (v1 v2 : Nat) : Bool :=
  let n1 := s.top v1
  let n2 := s.top v2
  s.isActive v1 && s.isActive v2 && n1.state == n2.state &&
    n1.position.point.byte == n2.position.point.byte && n1.errorCost == n2.errorCost

/-- Whether two subtrees on links may stand for each other: both absent, or of one symbol and
either both with errors or of the same extent, child count and extra flag. -/
def equivalent : Option Subtree → Option Subtree → Bool
  | none, none => true
  | some a, some b =>
    a.symbol == b.symbol &&
      ((a.errorCost > 0 && b.errorCost > 0) ||
        (a.facts.start.byte - a.facts.padStart.byte == b.facts.start.byte - b.facts.padStart.byte &&
         a.facts.stop.point.byte - a.facts.start.byte == b.facts.stop.point.byte - b.facts.start.byte &&
         a.children.size == b.children.size && a.extra == b.extra))
  | _, _ => false

/-- The dynamic precedence of an optional subtree. -/
def linkPrecedence : Option Subtree → Int
  | some t => t.dynamicPrecedence
  | none => 0

/-- The node count an optional subtree adds. -/
def linkNodeCount : Option Subtree → Nat
  | some t => t.stackNodeCount
  | none => 0

/-- Adds `link` to node `self`. The first link there that is equivalent and either joins the
same nodes or leads to a node the new one can merge with decides: between the same nodes only
the higher dynamic precedence is kept; otherwise the new link's lower node is merged into the
existing one, recursively. Without such a link the new one is added when there is room, and
the node's counts take the best path. The fuel bounds the depth of the merging. -/
def addLink : Nat → Stack → Nat → Link → Stack
  | 0, s, _, _ => s
  | fuel + 1, s, self, link =>
    if link.node == self then s
    else
      let me := s.node self
      let target := s.node link.node
      let decides := fun (l : Link) =>
        equivalent l.subtree link.subtree &&
          (l.node == link.node ||
            ((s.node l.node).state == target.state &&
             (s.node l.node).position.point.byte == target.position.point.byte &&
             (s.node l.node).errorCost == target.errorCost))
      match me.links.zipIdx.find? fun (l, _) => decides l with
      | some (existing, i) =>
        if existing.node == link.node then
          if linkPrecedence link.subtree > linkPrecedence existing.subtree then
            s.modifyNode self fun n =>
              { n with links := n.links.set! i { existing with subtree := link.subtree },
                       dynamicPrecedence := target.dynamicPrecedence + linkPrecedence link.subtree }
          else s
        else
          let s := target.links.foldl (fun s l => addLink fuel s existing.node l) s
          let dyn := target.dynamicPrecedence + linkPrecedence link.subtree
          s.modifyNode self fun n =>
            if dyn > n.dynamicPrecedence then { n with dynamicPrecedence := dyn } else n
      | none =>
        if me.links.size ≥ maxLinkCount then s
        else
          let count := target.nodeCount + linkNodeCount link.subtree
          let dyn := target.dynamicPrecedence + linkPrecedence link.subtree
          s.modifyNode self fun n =>
            { n with links := n.links.push link,
                     nodeCount := max n.nodeCount count,
                     dynamicPrecedence := max n.dynamicPrecedence dyn }

/-- Merges version `v2` into version `v1` when they can be merged: the links of `v2`'s head
are added to `v1`'s, and `v2` is removed. Answers whether they were merged. -/
def merge (s : Stack) (v1 v2 : Nat) : Stack × Bool :=
  if !s.canMerge v1 v2 then (s, false)
  else
    let n1 := (s.head v1).node
    let fuel := s.nodes.size + 1
    let links := (s.top v2).links
    let s := links.foldl (fun s l => addLink fuel s n1 l) s
    let s :=
      if (s.node n1).state == errorState then
        let count := (s.node n1).nodeCount
        s.modifyHead v1 fun h => { h with nodeCountAtLastError := count }
      else s
    (s.removeVersion v2, true)

/-! ## Walking down the stack -/

/-- A path being followed down from a head: where it is, the subtrees passed (top first),
how many of them count, and whether all its links were pending. -/
structure Walker where
  node : Nat
  subtrees : Array Subtree
  count : Nat
  pending : Bool
deriving Inhabited

/-- Adds a slice for a path that ended at `node`: with the slices that already ended there,
or else as a new version. -/
def addSlice (s : Stack) (slices : Array Slice) (base node : Nat)
    (subtrees : Array Subtree) : Stack × Array Slice :=
  match (slices.zipIdx.toList.reverse.find? fun (sl, _) => (s.head sl.version).node == node) with
  | some (sl, i) => (s, slices.insertIdxIfInBounds (i + 1) ⟨subtrees, sl.version⟩)
  | none =>
    let (s, v) := s.addVersion base node
    (s, slices.push ⟨subtrees, v⟩)

/-- What a walk decides at each node: whether to pop a slice there, and whether to stop. -/
structure Decision where
  pop : Bool
  stop : Bool

/-- Follows every path down from version `v`, asking `decide` at each node with its own state
`σ`; `keep` tells whether to collect subtrees. Answers the stack, the slices and the final
state. The walk goes down one link per round, so it ends within as many rounds as there are
nodes. -/
def walk {σ : Type} (s : Stack) (v : Nat) (keep : Bool) (init : σ)
    (decide : σ → Stack → Walker → σ × Decision) : Stack × Array Slice × σ :=
  go (s.nodes.size + 2) s #[] init #[⟨(s.head v).node, #[], 0, true⟩]
where
  /-- Handles the walker at index `i` of a round of `size` walkers. -/
  step (s : Stack) (slices : Array Slice) (st : σ) (walkers : Array Walker) (i : Nat) :
      Stack × Array Slice × σ × Array Walker × Bool :=
    let w := walkers.getD i default
    let n := s.node w.node
    let (st, d) := decide st s w
    let stop := d.stop || n.links.isEmpty
    let (s, slices) :=
      if d.pop then addSlice s slices v w.node w.subtrees.reverse else (s, slices)
    if stop then (s, slices, st, walkers.eraseIdxIfInBounds i, true)
    else
      let follow := fun (w : Walker) (l : Link) =>
        match l.subtree with
        | some t =>
          { w with node := l.node,
                   subtrees := if keep then w.subtrees.push t else w.subtrees,
                   count := if t.extra then w.count else w.count + 1,
                   pending := if t.extra then w.pending else w.pending && l.pending }
        | none => { w with node := l.node, count := w.count + 1, pending := false }
      let walkers := (n.links.extract 1 n.links.size).foldl (fun ws l =>
        if ws.size ≥ maxIteratorCount then ws else ws.push (follow w l)) walkers
      let walkers := match n.links[0]? with
        | some l => walkers.set! i (follow w l)
        | none => walkers
      (s, slices, st, walkers, false)
  /-- One round over the walkers present at its start. -/
  round (s : Stack) (slices : Array Slice) (st : σ) (walkers : Array Walker) :
      Nat → Nat → Nat → Stack × Array Slice × σ × Array Walker
    | 0, _, _ => (s, slices, st, walkers)
    | fuel + 1, i, size =>
      if i < size then
        let (s, slices, st, walkers, removed) := step s slices st walkers i
        if removed then round s slices st walkers fuel i (size - 1)
        else round s slices st walkers fuel (i + 1) size
      else (s, slices, st, walkers)
  /-- Rounds until no walker is left. -/
  go : Nat → Stack → Array Slice → σ → Array Walker → Stack × Array Slice × σ
    | 0, s, slices, st, _ => (s, slices, st)
    | fuel + 1, s, slices, st, walkers =>
      if walkers.isEmpty then (s, slices, st)
      else
        let (s, slices, st, walkers) := round s slices st walkers walkers.size 0 walkers.size
        go fuel s slices st walkers

/-- Pops `count` subtrees from version `v` along every path. -/
def popCount (s : Stack) (v count : Nat) : Stack × Array Slice :=
  let (s, slices, _) := s.walk v true () fun _ _ w =>
    ((), if w.count == count then ⟨true, true⟩ else ⟨false, false⟩)
  (s, slices)

/-- Pops everything from version `v`, down to the bottom of the stack. -/
def popAll (s : Stack) (v : Nat) : Stack × Array Slice :=
  let (s, slices, _) := s.walk v true () fun _ s w =>
    ((), if (s.node w.node).links.isEmpty then ⟨true, false⟩ else ⟨false, false⟩)
  (s, slices)

/-- When the top link of version `v` holds an error node, pops that node and puts the version
below it in `v`'s place; answers the popped subtrees. -/
def popError (s : Stack) (v : Nat) : Stack × Array Subtree :=
  let n := s.top v
  if n.links.any fun l => match l.subtree with
      | some t => t.isError
      | none => false then
    let (s, slices, _) := s.walk v true false fun found _ w =>
      match w.subtrees[0]? with
      | some t =>
        if !found && t.isError then (true, ⟨true, true⟩) else (found, ⟨false, true⟩)
      | none => (found, ⟨false, false⟩)
    match slices[0]? with
    | some sl => (s.renumber sl.version v, sl.subtrees)
    | none => (s, #[])
  else (s, #[])

/-- Records for version `v` the states below its head, down to `maxDepth` subtrees, each
state once per depth. -/
def recordSummary (s : Stack) (v maxDepth : Nat) : Stack :=
  let (s, _, summary) := s.walk v false (#[] : Array SummaryEntry) fun summary s w =>
    let n := s.node w.node
    let depth := w.count
    if depth > maxDepth then (summary, ⟨false, true⟩)
    else
      let seen := (summary.toList.reverse.takeWhile (·.depth ≥ depth)).any fun e =>
        e.depth == depth && e.state == n.state
      if seen then (summary, ⟨false, false⟩)
      else (summary.push ⟨n.position.point, depth, n.state⟩, ⟨false, false⟩)
  s.modifyHead v fun h => { h with summary := some summary }

end Stack

end Localize.Parsing
