import Localize.Parsing.Glr
import Localize.Go.Grammar
import Localize.Go.Literal

/-! # The Go lexer

The lexer reads one token at a time, for the parse state the parser is in: the longest token
that the state can parse, after skipping spaces, tabs, carriage returns, vertical tabs and
form feeds. A line break is a token where the state can parse one (where it may end a
statement) and a space elsewhere. The tokens inside an interpreted string follow the opening
quote directly, with no space skipped, and so does the text of a raw string, which runs to the
next backquote (or the end of the text) and may be empty.

Parse states that look for the same tokens share one lexer, and that lexer reads the end of the
text when one of them can parse it. Elsewhere, at the end of the text, where a statement may end
but the text may not, the lexer reads an empty NUL terminator, so that a last statement without
a line break ends there.

An identifier that is spelled like a keyword is that keyword where the state can parse the
keyword, and an identifier elsewhere.

When the state can parse no token at this place, the lexer tries the tokens the error state
recovers with, where a line break is a space. When even these fail, it skips characters, one
at a time or as much of a rune or escape as it could read, together with the spaces
between them, until a token starts, and gives the skipped text as an error token.
-/

namespace Localize.Go

open Localize.Parsing

/-- Whether `c` separates tokens apart from the line break. -/
def isSeparator (c : Char) : Bool :=
  c == ' ' || c == '\t' || c == '\r' || c == '\x0b' || c == '\x0c'

/-- Whether symbol `sym` is a keyword. -/
def isKeywordSymbol (sym : Nat) : Bool := Grammar.keywords.any (·.2 == sym)

/-- The tokens written as fixed strings that may follow spaces and are no keywords, with their
texts. -/
def fixedTokens : List (List Char × Nat) :=
  Grammar.tokenTexts.toList.zipIdx.filterMap fun (text, sym) =>
    if text.isEmpty || sym == Grammar.closeQuote || sym == Grammar.newline || isKeywordSymbol sym then
      none
    else some (text.toList, sym)

/-- The longest of the candidate tokens (symbol and length) with a positive length; of equal
lengths the smaller symbol. -/
def longest (candidates : List (Nat × Nat)) : Option (Nat × Nat) :=
  candidates.foldl (fun best (sym, n) =>
    if n == 0 then best
    else match best with
      | some (s, m) => if n > m || (n == m && sym < s) then some (sym, n) else best
      | none => some (sym, n)) none

/-- The longest token at the start of `cs` that may follow spaces and that `valid` allows; the
identifier stands for the keywords. -/
def longestToken (valid : Nat → Bool) (cs : List Char) : Option (Nat × Nat) :=
  let word := valid Grammar.identifier || Grammar.keywords.any fun (_, s) => valid s
  let given := fun (sym : Nat) (len : List Char → Nat) =>
    if valid sym then [(sym, len cs)] else []
  longest <|
    (if word then [(Grammar.identifier, identifierLength cs)] else []) ++
    given Grammar.intLiteral intLength ++
    given Grammar.floatLiteral floatLength ++
    given Grammar.imaginaryLiteral imaginaryLength ++
    given Grammar.runeLiteral runeLength ++
    given Grammar.comment commentLength ++
    fixedTokens.filterMap fun (text, sym) =>
      if valid sym && text.isPrefixOf cs then some (sym, text.length) else none

/-- The longest token inside an interpreted string at the start of `cs` that `valid` allows:
text, an escape, or the closing quote. -/
def immediateToken (valid : Nat → Bool) (cs : List Char) : Option (Nat × Nat) :=
  let given := fun (sym : Nat) (len : List Char → Nat) =>
    if valid sym then [(sym, len cs)] else []
  longest <|
    given Grammar.stringContent stringContentLength ++
    given Grammar.escapeSequence escapeSequenceLength ++
    given Grammar.closeQuote fun cs => if cs.head? == some '"' then 1 else 0

/-- The cursor after the spaces at `c`; line breaks are spaces unless `keepLineBreaks`. -/
def skipSpaces (keepLineBreaks : Bool) (c : Cursor) : Cursor :=
  c.advanceBy (c.rest.takeWhile fun ch => isSeparator ch || (ch == '\n' && !keepLineBreaks)).length

/-- The token at `c` among those `valid` allows: its symbol, and cursors at its start and
end. The text of a raw string or a token inside an interpreted string comes first; otherwise
spaces are skipped, and then come the end
of the text, a line break where it is a token, or the longest token. The end of the text reads
as an empty NUL terminator where that can end a statement and `valid` does not allow the end of
the text. -/
def scan (valid : Nat → Bool) (c : Cursor) : Option (Nat × Cursor × Cursor) :=
  if valid Grammar.rawContent then
    some (Grammar.rawContent, c, c.advanceBy (rawContentLength c.rest))
  else
    match immediateToken valid c.rest with
    | some (sym, n) => some (sym, c, c.advanceBy n)
    | none =>
      let q := skipSpaces (valid Grammar.newline) c
      match q.rest with
      | [] => if valid 0 || !valid Grammar.nul then some (0, q, q) else some (Grammar.nul, q, q)
      | '\n' :: _ => some (Grammar.newline, q, q.advanceBy 1)
      | cs => (longestToken valid cs).map fun (sym, n) => (sym, q, q.advanceBy n)

/-- How much a failed token read at `c`: part of a rune, or, when nothing was skipped before
it (`right`), of an escape. -/
def partialRead (valid : Nat → Bool) (c : Cursor) (right : Bool) : Nat :=
  match c.rest with
  | '\x27' :: _ => if valid Grammar.runeLiteral then runePartial c.rest else 0
  | '\\' :: _ => if right && valid Grammar.escapeSequence then escapePartial c.rest else 0
  | _ => 0

/-- The text to skip at `c` when no token starts there: its start and end. Characters are
skipped one at a time, or as far as a failed token read, and spaces between them are taken
along, until a token (or the end of the text) starts after the skipped text. -/
def skipUnknown (valid : Nat → Bool) (c : Cursor) : Cursor × Cursor :=
  let q := skipSpaces false c
  let current := q.advanceBy (partialRead valid q true)
  go (c.rest.length + 2) q q current
where
  /-- Skips from `current`, the skipped text running from `first` to `last`. -/
  go : Nat → Cursor → Cursor → Cursor → Cursor × Cursor
    | 0, first, last, _ => (first, last)
    | fuel + 1, first, last, current =>
      if current.point.byte == last.point.byte && current.rest.isEmpty then (first, last)
      else
        let current := if current.point.byte == last.point.byte then current.advance else current
        if (scan valid current).isSome then (first, current)
        else
          let q := skipSpaces false current
          go fuel first current (q.advanceBy (partialRead valid q (q.point.byte == current.point.byte)))

/-- The tokens the lexer of parse state `state` looks for: those the state can parse, with the
keywords read as identifiers, and without the end of the text; in increasing order. -/
def lexerTokens (table : Table) (state : Nat) : List Nat :=
  (List.range' 1 (table.tokenCount - 1)).filter fun sym =>
    !isKeywordSymbol sym &&
      (table.hasActions state sym ||
        (sym == Grammar.identifier && Grammar.keywords.any fun (_, kw) => table.hasActions state kw))

/-- Whether the lexer of parse state `state` reads the end of the text: when the state can
parse it, or when a state that looks for the same tokens, and so shares the lexer, can. -/
def readsEnd (table : Table) (state : Nat) : Bool :=
  table.hasActions state 0 ||
    let own := lexerTokens table state
    (List.range table.stateCount).any fun s => table.hasActions s 0 && lexerTokens table s == own

/-- The token for parse state `state` at `c`, read with `table`: first among the tokens the
state can parse (the end of the text where its lexer reads it), then among those of the error
state, and else skipped text. An identifier spelled like a keyword becomes the keyword when
`state` can parse it, and is marked as a keyword either way. -/
def lex (table : Table) (state : Nat) (c : Cursor) : Lexeme :=
  let valid := fun sym => if sym == 0 then readsEnd table state else table.hasActions state sym
  let recovering := table.hasActions errorState
  let found :=
    if state == errorState then scan recovering c
    else (scan valid c).orElse fun _ => scan recovering c
  match found with
  | some (sym, s, e) =>
    if sym == Grammar.identifier then
      let word := String.ofList (s.rest.take (identifierLength s.rest))
      match Grammar.keywords.find? (·.1 == word) with
      | some (_, kw) =>
        let sym := if table.hasActions state kw then kw else Grammar.identifier
        { symbol := sym, padStart := c.point, start := s.point, stop := e, keyword := true }
      | none => { symbol := sym, padStart := c.point, start := s.point, stop := e }
    else { symbol := sym, padStart := c.point, start := s.point, stop := e }
  | none =>
    let (s, e) := skipUnknown recovering c
    { symbol := errorSymbol, padStart := c.point, start := s.point, stop := e }

end Localize.Go
