/-! # Parse tables

An LR parse table says, for each state and each token, what a parser may do: shift the token
and go to another state, reduce the symbols on top of the stack to a nonterminal, accept the
text, or start recovering from an error. A state may allow several actions for one token: a
parser that follows all of them handles grammars that one token of lookahead cannot decide,
keeping one version of its stack per choice.

After a reduction the parser goes to the state that the table gives for the nonterminal from
the state below the popped symbols.

The symbols are numbered from `0`, the end of the text; the tokens come first, then the
nonterminals. Two more symbols stand for errors: `errorSymbol` for skipped text and
`errorRepeatSymbol` for the invisible nodes that gather skipped tokens.

A table is stored as a text of numbers (see `decodeNumbers`) and read into arrays once.
-/

namespace Localize.Parsing

/-- What a parser may do with a token in a state. -/
inductive Action where
  /-- Push the token and go to `state`. A `repetition` shift belongs to a repeated rule
  whose ambiguity is settled by reducing first; the parser skips it, but it still shows
  that the token can be parsed there. -/
  | shift (state : Nat) (repetition : Bool)
  /-- Push the token as an extra (a comment), staying in the same state. -/
  | shiftExtra
  /-- Replace the top `childCount` symbols by one node of `symbol`, built by production
  shape `production`; `dynamicPrecedence` ranks this reading against others. -/
  | reduce (symbol childCount : Nat) (dynamicPrecedence : Int) (production : Nat)
  /-- The text is complete. -/
  | accept
  /-- Continue error recovery with this token. -/
  | recover
deriving Repr, Inhabited, BEq

/-- The symbol of the nodes that hold skipped text. -/
def errorSymbol : Nat := 65535

/-- The symbol of the invisible nodes that gather tokens skipped one after another. -/
def errorRepeatSymbol : Nat := 65534

/-- The error state: the state a parser is in while it skips tokens. -/
def errorState : Nat := 0

/-- The start state. -/
def startState : Nat := 1

/-- How a production presents its children: the children it shows under another name (by
position among the children that are not extras, with the name and whether that name is a
named node), and the field names of its children. -/
structure ProductionShape where
  aliases : Array (Nat × String × Bool)
  fields : Array (Nat × String)
deriving Repr, Inhabited

/-- A parse table. -/
structure Table where
  /-- The number of token symbols; symbols from here on are nonterminals. -/
  tokenCount : Nat
  /-- For each state and token, one more than the index of its actions in `actionLists`,
  or `0` when the token has no action there. -/
  actionIndex : Array (Array Nat)
  /-- The distinct lists of actions. -/
  actionLists : Array (Array Action)
  /-- For each state and nonterminal (counted from `tokenCount`), the state after it, or
  `0` when there is none. -/
  gotos : Array (Array Nat)
deriving Inhabited

namespace Table

/-- The number of states. -/
def stateCount (t : Table) : Nat := t.actionIndex.size

/-- The actions for token `symbol` in `state`, in the order the parser tries them: reductions
first, then at most one shift. -/
def actions (t : Table) (state symbol : Nat) : Array Action :=
  if symbol < t.tokenCount then
    let i := (t.actionIndex.getD state #[]).getD symbol 0
    if i == 0 then #[] else t.actionLists.getD (i - 1) #[]
  else #[]

/-- The state after nonterminal `symbol` from `state`, or `0`. -/
def goto (t : Table) (state symbol : Nat) : Nat :=
  (t.gotos.getD state #[]).getD (symbol - t.tokenCount) 0

/-- Whether `symbol` can be parsed in `state`. -/
def hasActions (t : Table) (state symbol : Nat) : Bool :=
  if symbol < t.tokenCount then !(t.actions state symbol).isEmpty
  else t.goto state symbol != 0

/-- Whether the first action for token `symbol` in `state` is a reduction. -/
def hasReduceAction (t : Table) (state symbol : Nat) : Bool :=
  match (t.actions state symbol)[0]? with
  | some (Action.reduce ..) => true
  | _ => false

/-- The state after `symbol` from `state`: the target of the last action when it is a
shift (an extra stays in `state`), the goto of a nonterminal, and `0` otherwise. Error
symbols lead to the error state. -/
def nextState (t : Table) (state symbol : Nat) : Nat :=
  if symbol == errorSymbol || symbol == errorRepeatSymbol then errorState
  else if symbol < t.tokenCount then
    match (t.actions state symbol).back? with
    | some (.shift s _) => s
    | some .shiftExtra => state
    | _ => 0
  else t.goto state symbol

end Table

/-! ## Reading a stored table

A stored table is a text of digits: each number is written in base 32, most significant digit
first, its last digit taken from `finalDigits` and the others from `innerDigits`, so that
numbers need no separators.
-/

/-- The digits that end a number. -/
def finalDigits : List Char := "ABCDEFGHIJKLMNOPQRSTUVWXYZ6789@$".toList

/-- The digits before the last one of a number. -/
def innerDigits : List Char := "abcdefghijklmnopqrstuvwxyz012345".toList

/-- The numbers of a stored text, read left to right; characters that are no digits are
skipped. -/
def decodeNumbers (text : String) : Array Nat :=
  (text.toList.foldl (fun (acc : Array Nat × Nat) c =>
    match finalDigits.idxOf? c with
    | some d => (acc.1.push (acc.2 * 32 + d), 0)
    | none =>
      match innerDigits.idxOf? c with
      | some d => (acc.1, acc.2 * 32 + d)
      | none => acc) (#[], 0)).1

/-- A reader of numbers from an array, left to right. -/
abbrev Reader := StateM Nat

/-- The next number of `data`, or `0` past its end. -/
def next (data : Array Nat) : Reader Nat :=
  modifyGet fun i => (data.getD i 0, i + 1)

/-- One action: a kind (`0` shift, `1` shift as an extra, `2` reduce, `3` accept, `4`
recover) and its operands; a dynamic precedence is stored plus 16. -/
def readAction (data : Array Nat) : Reader Action := do
  match ← next data with
  | 0 =>
    let s ← next data
    let r ← next data
    return .shift s (r == 1)
  | 1 => return .shiftExtra
  | 2 =>
    let sym ← next data
    let count ← next data
    let dyn ← next data
    let prod ← next data
    return .reduce sym count ((dyn : Int) - 16) prod
  | 3 => return .accept
  | _ => return .recover

/-- Reads `n` items with `item`. -/
def readMany {α : Type} (n : Nat) (item : Reader α) : Reader (Array α) := do
  let mut out := #[]
  for _ in [0:n] do
    out := out.push (← item)
  return out

/-- The table stored in `data`: the number of states and of action lists; each action list
as its length and actions; then for each state its groups of tokens sharing an action list
(the list's index, the number of tokens, and the tokens as increments) and its gotos (the
count, then nonterminal and state pairs). -/
def Table.decode (tokenCount nonterminalCount : Nat) (data : Array Nat) : Table :=
  let read : Reader Table := do
    let stateCount ← next data
    let listCount ← next data
    let lists ← readMany listCount do
      let n ← next data
      readMany n (readAction data)
    let mut actionIndex := #[]
    let mut gotos := #[]
    for _ in [0:stateCount] do
      let mut row := Array.replicate tokenCount 0
      let groups ← next data
      for _ in [0:groups] do
        let list ← next data
        let n ← next data
        let mut symbol := 0
        for _ in [0:n] do
          symbol := symbol + (← next data)
          row := row.setIfInBounds symbol (list + 1)
      actionIndex := actionIndex.push row
      let mut targets := Array.replicate nonterminalCount 0
      let k ← next data
      for _ in [0:k] do
        let sym ← next data
        let target ← next data
        targets := targets.setIfInBounds (sym - tokenCount) target
      gotos := gotos.push targets
    return { tokenCount, actionIndex, actionLists := lists, gotos }
  (read.run 0).1

end Localize.Parsing
