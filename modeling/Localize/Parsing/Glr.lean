import Localize.Parsing.Stack

/-! # Generalized LR parsing with error recovery

The parser reads tokens from left to right and follows every action the table allows: a
reduction makes a new version of the stack, a shift moves the version on. The versions are
advanced in turn, each until it has moved past the places the others have reached; between
rounds they are compared and merged, and the worse ones dropped.

A version that meets a token it cannot parse is paused. When no version can go on, the best
paused one recovers: it does the reductions its state allows regardless of the token, may
insert one missing token that lets the token be parsed, and enters the error state. There it
either returns to a state lower on its stack in which the token can be parsed, wrapping what
lay above in an error node, or skips the token into the error node on top. Each choice costs
(see `Subtree`), and a choice that some other version already beats is not made.

Two versions are compared by whether they are in error, then by error cost (a large enough
difference, weighed by the progress made since the last error, drops the worse one), then by
dynamic precedence. Of two trees for the same text the one with the lower error cost wins,
then the higher dynamic precedence, then the earlier by symbol.
-/

namespace Localize.Parsing

/-- A token as the lexer finds it: its symbol, where the whitespace before it starts, where
its text starts and ends, and whether it was read as a keyword. -/
structure Lexeme where
  symbol : Nat
  padStart : Point
  start : Point
  stop : Cursor
  keyword : Bool := false
deriving Inhabited

/-- A language: its parse table, its symbols, the symbol keywords are read as first, and its
lexer, which reads the next token for a parse state from a place in the text. -/
structure Language where
  table : Table
  symbols : Symbols
  keywordCapture : Nat
  lex : Nat → Cursor → Lexeme

/-- The most versions kept between rounds. -/
def maxVersionCount : Nat := 6

/-- How many versions a reduction may add beyond `maxVersionCount`. -/
def maxVersionCountOverflow : Nat := 4

/-- The cost difference, weighed by progress, beyond which a version is dropped. -/
def maxCostDifference : Nat := 16 * costPerSkippedTree

/-- What versions are compared by. -/
structure ErrorStatus where
  cost : Nat
  nodeCount : Nat
  dynamicPrecedence : Int
  inError : Bool

/-- The outcome of comparing two versions. -/
inductive Comparison where
  | takeLeft
  | preferLeft
  | tie
  | preferRight
  | takeRight
deriving BEq

/-- Compares two versions: one not in error beats one in error (outright when it also costs
less); otherwise the cheaper one is preferred, and taken outright when the difference times
one more than its progress exceeds `maxCostDifference`; then the higher dynamic precedence is
preferred. -/
def compareVersions (a b : ErrorStatus) : Comparison :=
  if !a.inError && b.inError then
    if a.cost < b.cost then .takeLeft else .preferLeft
  else if a.inError && !b.inError then
    if b.cost < a.cost then .takeRight else .preferRight
  else if a.cost < b.cost then
    if (b.cost - a.cost) * (1 + a.nodeCount) > maxCostDifference then .takeLeft else .preferLeft
  else if b.cost < a.cost then
    if (a.cost - b.cost) * (1 + b.nodeCount) > maxCostDifference then .takeRight else .preferRight
  else if a.dynamicPrecedence > b.dynamicPrecedence then .preferLeft
  else if b.dynamicPrecedence > a.dynamicPrecedence then .preferRight
  else .tie

/-- Whether tree `right` should replace tree `left` for the same text. -/
def selectTree (left right : Subtree) : Bool :=
  if right.errorCost < left.errorCost then true
  else if left.errorCost < right.errorCost then false
  else if right.dynamicPrecedence > left.dynamicPrecedence then true
  else if left.dynamicPrecedence > right.dynamicPrecedence then false
  else if left.errorCost > 0 then true
  else Subtree.compare left right == .gt

/-- Splits off the extras at the end of `trees`. -/
def splitTrailingExtras (trees : Array Subtree) : Array Subtree × Array Subtree :=
  let n := (trees.toList.reverse.takeWhile (·.extra)).length
  (trees.extract 0 (trees.size - n), trees.extract (trees.size - n) trees.size)

/-- The parser's state: its stack, the best finished tree, and how many trees were
finished. -/
structure ParserState where
  stack : Stack
  finished : Option Subtree := none
  acceptCount : Nat := 0
deriving Inhabited

/-- Computations of the parser. -/
abbrev ParseM := StateM ParserState

namespace Glr

/-- Reads something from the stack. The read is made at its place among the parser's steps,
so that no reference to the stack outlives it and the next change of the stack is made in
place. -/
@[noinline] def query {α : Type} (f : Stack → α) : ParseM α :=
  modifyGet fun s => let a := f s.stack; (a, s)

/-- Changes the stack. -/
def onStack (f : Stack → Stack) : ParseM Unit :=
  modify fun s => { s with stack := f s.stack }

/-- Changes the stack and answers something. -/
def withStack {α : Type} (f : Stack → Stack × α) : ParseM α :=
  modifyGet fun s =>
    let (st, a) := f s.stack
    (a, { s with stack := st })

/-- The number of halted versions. -/
def haltedCount : ParseM Nat :=
  query fun st => (List.range st.versionCount).countP st.isHalted

/-- The comparison data of version `v`; a paused version pays for skipping its token. -/
def versionStatus (v : Nat) : ParseM ErrorStatus := do
  let (cost, paused) ← query fun st => (st.errorCost v, st.isPaused v)
  let count ← withStack fun st => (st.nodeCountSinceError v).swap
  let (dyn, state) ← query fun st => (st.dynamicPrecedence v, st.state v)
  return ⟨if paused then cost + costPerSkippedTree else cost, count, dyn,
    paused || state == errorState⟩

/-- Whether a finished tree or another active version that has come as far beats version `v`
if it went on at `cost`. -/
def betterVersionExists (v : Nat) (inError : Bool) (cost : Nat) : ParseM Bool := do
  if let some f := (← get).finished then
    if f.errorCost ≤ cost then return true
  let position := (← query (·.position v)).point.byte
  let count ← withStack fun st => (st.nodeCountSinceError v).swap
  let status : ErrorStatus := ⟨cost, count, (← query (·.dynamicPrecedence v)), inError⟩
  let n := (← query (·.versionCount))
  for i in [0:n] do
    let behind ← query fun st => !st.isActive i || (st.position i).point.byte < position
    if i == v || behind then continue
    let other ← versionStatus i
    match compareVersions status other with
    | .takeRight => return true
    | .preferRight => if ← query (·.canMerge i v) then return true
    | _ => pure ()
  return false

/-- Reads the next token for version `v` in `state`. -/
def lexAt (lang : Language) (v state : Nat) : ParseM Subtree := do
  let l := lang.lex state (← query (·.position v))
  return Subtree.leaf lang.symbols l.symbol l.padStart l.start l.stop l.keyword

/-- Pushes `lookahead` on version `v` and moves it to `state`; `extra` marks it as an
extra. -/
def shift (v state : Nat) (lookahead : Subtree) (extra : Bool) : ParseM Unit := do
  let isLeaf := lookahead.children.isEmpty
  let t := if extra != lookahead.extra && isLeaf then lookahead.setExtra extra else lookahead
  onStack (·.push v (some t) (!isLeaf) state)

/-- Reduces `count` subtrees of version `v` to a node of `symbol`, along every path. Paths
ending at the same node make one node, from the children `selectTree` prefers. Each new
version is merged into an earlier one when possible. Answers the first new version, if
any. -/
def reduce (lang : Language) (v symbol count : Nat) (dynamicPrecedence : Int)
    (production : Nat) (endOfExtra : Bool) : ParseM (Option Nat) := do
  let initialCount := (← query (·.versionCount))
  let slices ← withStack (·.popCount v count)
  let halted ← haltedCount
  let groups := slices.toList.splitBy fun a b => a.version == b.version
  let mut removed := 0
  for group in groups do
    match group with
    | [] => pure ()
    | first :: others =>
      let sliceVersion := first.version - removed
      if sliceVersion > maxVersionCount + maxVersionCountOverflow + halted then
        onStack (·.removeVersion sliceVersion)
        removed := removed + 1
        continue
      let pos := (← query (·.position sliceVersion))
      let (children, trailing) := splitTrailingExtras first.subtrees
      let mut parent := Subtree.node lang.symbols symbol children production pos
      let mut extras := trailing
      for next in others do
        let (children, trailing) := splitTrailingExtras next.subtrees
        let scratch := Subtree.node lang.symbols symbol children 0 pos
        if selectTree parent scratch then
          extras := trailing
          parent := Subtree.node lang.symbols symbol children production pos
      let state := (← query (·.state sliceVersion))
      let nextState := lang.table.nextState state symbol
      if endOfExtra && nextState == state then parent := parent.setExtra true
      parent := parent.addDynamicPrecedence dynamicPrecedence
      onStack (·.push sliceVersion (some parent) false nextState)
      for e in extras do
        onStack (·.push sliceVersion (some e) false nextState)
      for j in [0:sliceVersion] do
        if j == v then continue
        if ← withStack (·.merge j sliceVersion) then
          removed := removed + 1
          break
  return if (← query (·.versionCount)) > initialCount then some initialCount else none

/-- Pops everything from version `v` after pushing the end of the text, and makes the tree:
the last subtree that is no extra, with the subtrees around it taken in as children. Keeps
the best finished tree, and halts the version. -/
def accept (lang : Language) (v : Nat) (lookahead : Subtree) : ParseM Unit := do
  onStack (·.push v (some lookahead) false startState)
  let slices ← withStack (·.popAll v)
  for slice in slices do
    let trees := slice.subtrees
    let pos := (← query (·.position v))
    let root := match (trees.zipIdx.toList.reverse.find? fun (t, _) => !t.extra) with
      | some (t, j) =>
        Subtree.node lang.symbols t.symbol
          (trees.extract 0 j ++ t.children ++ trees.extract (j + 1) trees.size) t.facts.production pos
      | none => Subtree.errorNode lang.symbols trees false pos
    modify fun s => { s with acceptCount := s.acceptCount + 1 }
    match (← get).finished with
    | some f => if selectTree f root then modify fun s => { s with finished := some root }
    | none => modify fun s => { s with finished := some root }
  match slices[0]? with
  | some sl => onStack (·.removeVersion sl.version)
  | none => pure ()
  onStack (·.halt v)

/-- Does every reduction that version `starting` (and the versions they make) allows with
token `lookahead`, or with any token when `lookahead` is `0`, until the versions can shift.
With a given token, versions that can neither shift nor reduce are removed. Answers whether
some version can shift the token. -/
def doAllPotentialReductions (lang : Language) (starting lookahead : Nat) : ParseM Bool := do
  let initialCount := (← query (·.versionCount))
  let mut canShift := false
  let mut version := starting
  let mut i := 0
  for _ in [0:1000] do
    let versionCount := (← query (·.versionCount))
    if version ≥ versionCount then break
    let mut merged := false
    for j in [initialCount:version] do
      if ← withStack (·.merge j version) then
        merged := true
        break
    if merged then
      i := i + 1
      continue
    let state := (← query (·.state version))
    let symbols := if lookahead != 0 then [lookahead] else List.range' 1 (lang.table.tokenCount - 1)
    let mut hasShift := false
    let mut reductions : Array (Nat × Nat × Int × Nat) := #[]
    for symbol in symbols do
      for action in lang.table.actions state symbol do
        match action with
        | .shift _ repetition => if !repetition then hasShift := true
        | .recover => hasShift := true
        | .reduce sym count dyn prod =>
          if count > 0 && !(reductions.any fun (s, c, _, _) => s == sym && c == count) then
            reductions := reductions.push (sym, count, dyn, prod)
        | _ => pure ()
    let mut reductionVersion : Option Nat := none
    for (sym, count, dyn, prod) in reductions do
      reductionVersion ← reduce lang version sym count dyn prod false
    if hasShift then
      canShift := true
    else if reductionVersion.isSome && i < maxVersionCount then
      match reductionVersion with
      | some r => onStack (·.renumber r version)
      | none => pure ()
      i := i + 1
      continue
    else if lookahead != 0 then
      onStack (·.removeVersion version)
    version := if version == starting then versionCount else version + 1
    i := i + 1
  return canShift

/-- Returns version `v` to `goal`, `depth` subtrees down, along every path that reaches that
state; what was popped, with the children of an error node just below, becomes an error
node, an extra. Paths that end in another state are halted. Answers whether some path
reached it. -/
def recoverToState (lang : Language) (v depth goal : Nat) : ParseM Bool := do
  let slices ← withStack (·.popCount v depth)
  let mut previous : Option Nat := none
  for slice in slices do
    if previous == some slice.version then continue
    if (← query (·.state slice.version)) != goal then
      onStack (·.halt slice.version)
      continue
    let errorTrees ← withStack (·.popError slice.version)
    let popped := match errorTrees[0]? with
      | some e => e.children ++ slice.subtrees
      | none => slice.subtrees
    let (subtrees, trailing) := splitTrailingExtras popped
    if !subtrees.isEmpty then
      let pos := (← query (·.position slice.version))
      onStack (·.push slice.version (some (Subtree.errorNode lang.symbols subtrees true pos)) false goal)
    for t in trailing do
      onStack (·.push slice.version (some t) false goal)
    previous := some slice.version
  return previous.isSome

/-- Recovers version `v`, in the error state, at `lookahead`: first by returning to the
shallowest recorded state below in which the token can be parsed, then (unless that made too
many versions) also by skipping the token into the error node on top of the stack. At the end
of the text everything becomes one error node and the text is accepted. -/
def recover (lang : Language) (v : Nat) (lookahead : Subtree) : ParseM Unit := do
  let mut didRecover := false
  let previousCount := (← query (·.versionCount))
  let position := (← query (·.position v)).point
  let summary := (← query (·.head v)).summary
  let sinceError ← withStack fun st => (st.nodeCountSinceError v).swap
  let currentCost := (← query (·.errorCost v))
  if let some entries := summary then
    if !lookahead.isError then
      for entry in entries do
        if entry.state == errorState then continue
        if entry.position.byte == position.byte then continue
        let depth := if sinceError > 0 then entry.depth + 1 else entry.depth
        let wouldMerge ← query fun st => (List.range previousCount).any fun j =>
          st.state j == entry.state && (st.position j).point.byte == position.byte
        if wouldMerge then continue
        let newCost := currentCost + entry.depth * costPerSkippedTree +
          (position.byte - entry.position.byte) * costPerSkippedChar +
          (position.row - entry.position.row) * costPerSkippedLine
        if ← betterVersionExists v false newCost then break
        if lang.table.hasActions entry.state lookahead.symbol then
          if ← recoverToState lang v depth entry.state then
            didRecover := true
            break
  let mut k := previousCount
  for _ in [0:(← query (·.versionCount))] do
    if k < (← query (·.versionCount)) then
      if !(← query (·.isActive k)) then onStack (·.removeVersion k)
      else k := k + 1
  if lookahead.symbol == 0 then
    let pos := (← query (·.position v))
    onStack (·.push v (some (Subtree.errorNode lang.symbols #[] false pos)) false startState)
    accept lang v lookahead
    return
  if didRecover && (← query (·.versionCount)) > maxVersionCount then
    onStack (·.halt v)
    return
  let newCost := currentCost + costPerSkippedTree + lookahead.totalBytes * costPerSkippedChar +
    lookahead.totalRows * costPerSkippedLine
  if ← betterVersionExists v false newCost then
    onStack (·.halt v)
    return
  let lookahead :=
    match (lang.table.actions startState lookahead.symbol).back? with
    | some .shiftExtra => lookahead.setExtra true
    | _ => lookahead
  let pos := lookahead.facts.stop
  let mut errorRepeat := Subtree.node lang.symbols errorRepeatSymbol #[lookahead] 0 pos
  if sinceError > 0 then
    let slices ← withStack (·.popCount v 1)
    if let some first := slices[0]? then
      if slices.size > 1 then
        for _ in [0:(← query (·.versionCount))] do
          if (← query (·.versionCount)) > first.version + 1 then
            onStack (·.removeVersion (first.version + 1))
      onStack (·.renumber first.version v)
      errorRepeat := Subtree.node lang.symbols errorRepeatSymbol (first.subtrees.push errorRepeat) 0 pos
  onStack (·.push v (some errorRepeat) false errorState)

/-- Starts error recovery for paused version `v` at `lookahead`: does the reductions its state
allows, tries to insert one missing token after which the token can be parsed (on a copy of
the version), pushes the start of an error on every version made, merges them, records a
summary of the states below, and recovers. -/
def handleError (lang : Language) (v : Nat) (lookahead : Subtree) : ParseM Unit := do
  let previousCount := (← query (·.versionCount))
  let _ ← doAllPotentialReductions lang v 0
  let versionCount := (← query (·.versionCount))
  let position := (← query (·.position v))
  let mut didInsertMissing := false
  let mut w := v
  for _ in [0:versionCount + 1] do
    if w ≥ versionCount then break
    if !didInsertMissing then
      let state := (← query (·.state w))
      for missing in List.range' 1 (lang.table.tokenCount - 1) do
        let after := lang.table.nextState state missing
        if after == 0 || after == state then continue
        if lang.table.hasReduceAction after lookahead.symbol then
          let copy ← withStack (·.copyVersion w)
          let tree := Subtree.missingLeaf lang.symbols missing position
          onStack (·.push copy (some tree) false after)
          if ← doAllPotentialReductions lang copy lookahead.symbol then
            didInsertMissing := true
            break
    onStack (·.push w none false errorState)
    w := if w == v then previousCount else w + 1
  for _ in [previousCount:versionCount] do
    discard <| withStack (·.merge v previousCount)
  onStack (·.recordSummary v maxSummaryDepth)
  recover lang v lookahead

/-- Advances version `v` by one token: reads it, and takes the actions for it, following the
last reduction made until a shift, an acceptance or a recovery. A keyword with no action is
read as an identifier when that has one. A version with no action for the token is paused,
or recovers when it is already in the error state. -/
def advance (lang : Language) (v : Nat) : ParseM Unit := do
  let mut state := (← query (·.state v))
  let mut lookahead ← lexAt lang v state
  let mut entry := lang.table.actions state lookahead.symbol
  for _ in [0:10000] do
    let mut lastReduction : Option Nat := none
    for action in entry do
      match action with
      | .shift next repetition =>
        if !repetition then
          shift v next lookahead false
          return
      | .shiftExtra =>
        shift v state lookahead true
        return
      | .reduce sym count dyn prod =>
        if let some r ← reduce lang v sym count dyn prod false then lastReduction := some r
      | .accept =>
        accept lang v lookahead
        return
      | .recover =>
        recover lang v lookahead
        return
    if let some r := lastReduction then
      onStack (·.renumber r v)
      state := (← query (·.state v))
      entry := lang.table.actions state lookahead.symbol
      continue
    if lookahead.facts.keyword && lookahead.symbol != lang.keywordCapture then
      let asWord := lang.table.actions state lang.keywordCapture
      if !asWord.isEmpty then
        lookahead := lookahead.setSymbol lang.symbols lang.keywordCapture
        entry := asWord
        continue
    if state == errorState then
      recover lang v lookahead
      return
    onStack (·.pause v lookahead)
    return

/-- Compares the versions pairwise, dropping, merging and reordering them, keeps at most
`maxVersionCount`, and, when the best version is paused, resumes it into error recovery while
removing the other paused ones. Answers the least error cost of a version not in error. -/
def condense (lang : Language) : ParseM Nat := do
  let mut minCost := 1000000000
  let mut i := 0
  for _ in [0:(← query (·.versionCount)) + 1] do
    if i ≥ (← query (·.versionCount)) then break
    if (← query (·.isHalted i)) then
      onStack (·.removeVersion i)
      continue
    let statusI ← versionStatus i
    if !statusI.inError && statusI.cost < minCost then minCost := statusI.cost
    let mut j := 0
    let mut removedI := false
    for _ in [0:i + 1] do
      if j ≥ i then break
      let statusJ ← versionStatus j
      match compareVersions statusJ statusI with
      | .takeLeft =>
        onStack (·.removeVersion i)
        removedI := true
        break
      | .preferLeft | .tie =>
        if ← withStack (·.merge j i) then
          removedI := true
          break
        else j := j + 1
      | .preferRight =>
        if ← withStack (·.merge j i) then
          removedI := true
          break
        else
          onStack (·.swap i j)
          j := j + 1
      | .takeRight =>
        onStack (·.removeVersion j)
        i := i - 1
    if !removedI then i := i + 1
  for _ in [0:(← query (·.versionCount))] do
    if (← query (·.versionCount)) > maxVersionCount then onStack (·.removeVersion maxVersionCount)
  if (← query (·.versionCount)) > 0 then
    let mut hasUnpaused := false
    let mut k := 0
    let mut n := (← query (·.versionCount))
    for _ in [0:n + 1] do
      if k ≥ n then break
      if (← query (·.isPaused k)) then
        if !hasUnpaused && (← get).acceptCount < maxVersionCount then
          minCost := (← query (·.errorCost k))
          match ← withStack (·.resume k) with
          | some lookahead => handleError lang k lookahead
          | none => pure ()
          hasUnpaused := true
          k := k + 1
        else
          onStack (·.removeVersion k)
          n := n - 1
      else
        hasUnpaused := true
        k := k + 1
  return minCost

/-- One round: each version is advanced until it has moved past the place reached so far (or
stops being active), then the versions are condensed. Answers whether to go on, and the place
reached. -/
def round (lang : Language) (fuel lastPosition : Nat) : ParseM (Bool × Nat) := do
  let mut last := lastPosition
  let mut v := 0
  let mut seen := (← query (·.versionCount))
  for _ in [0:fuel] do
    seen := (← query (·.versionCount))
    if v ≥ seen then break
    for _ in [0:fuel] do
      if !(← query (·.isActive v)) then break
      advance lang v
      let position := (← query (·.position v)).point.byte
      if position > last || (v > 0 && position == last) then
        last := position
        break
    v := v + 1
  let minCost ← condense lang
  if let some f := (← get).finished then
    if f.errorCost < minCost then
      onStack fun st => { st with heads := #[] }
      return (false, last)
  return (seen != 0, last)

/-- Rounds until no version is left or the finished tree beats every version. -/
def rounds (lang : Language) (fuel : Nat) : Nat → Nat → ParseM Unit
  | 0, _ => pure ()
  | n + 1, last => do
    let (goOn, last) ← round lang fuel last
    if goOn then rounds lang fuel n last

end Glr

/-- The syntax tree of `text`: the best tree accepted, or an empty error node when parsing
gave up. The rounds are bounded generously by the length of the text. -/
def Language.parse (lang : Language) (text : String) : Subtree :=
  let start := Cursor.start text
  let fuel := 8 * (text.utf8ByteSize + 16)
  let (_, s) := (Glr.rounds lang fuel fuel 0).run { stack := Stack.init start }
  match s.finished with
  | some t => t
  | none => Subtree.errorNode lang.symbols #[] false start

end Localize.Parsing
