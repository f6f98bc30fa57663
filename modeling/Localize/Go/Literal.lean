import Localize.Text.Identifier

/-! # Go literals

How far each kind of Go token reaches at the start of a text: identifiers, integer, floating
point and imaginary numbers, runes, the text of raw strings, comments and escape sequences. A
length of zero means that no token of the kind starts there.

Numbers follow the Go specification with `_` between digits: decimal, `0b`, `0o`/`0` octal and
`0x` integers; decimal floats with a point or an exponent, and hexadecimal floats, which need a
`p` exponent; and any of these, or a plain digit run, followed by `i`. An exponent without
digits is no part of a number, so `1e+x` is the integer `1` and more.

A rune is one character other than a quote or backslash, or an escape, between single quotes.
An escape in an interpreted string is a backslash and any character but `x`, `u` and `U` (a
line break included), two or three decimal digits, `x` and two or more hexadecimal digits, `u`
and four, or `U` and eight.

When no token matches, a lexer that has read part of a rune or an escape has still consumed
those characters; `runePartial` and `escapePartial` say how many.
-/

namespace Localize.Go

open Localize.Text

/-! ## Number literals -/

/-- Whether `c` is a digit in base `b` (2, 8, 16, or else 10). -/
def isDigitIn : Nat → Char → Bool
  | 2, c => c == '0' || c == '1'
  | 8, c => '0' ≤ c && c ≤ '7'
  | 16, c => c.isDigit || ('a' ≤ c && c ≤ 'f') || ('A' ≤ c && c ≤ 'F')
  | _, c => c.isDigit

/-- The length of the longest prefix of `cs` made of `_ d` or `d` groups, digits `d` in base
`b`. -/
def digitTail (b : Nat) : List Char → Nat
  | '_' :: c :: rest => if isDigitIn b c then 2 + digitTail b rest else 0
  | c :: rest => if isDigitIn b c then 1 + digitTail b rest else 0
  | [] => 0

/-- The length of the longest digit run `d (_? d)*` in base `b` that `cs` starts with, zero
when it does not start with a digit. -/
def digitRun (b : Nat) : List Char → Nat
  | c :: rest => if isDigitIn b c then 1 + digitTail b rest else 0
  | [] => 0

/-- The length of an exponent `m [+-]? digits` that `cs` starts with, `m` one of `marks`. -/
def exponentLength (marks : List Char) : List Char → Option Nat
  | m :: rest =>
    if marks.contains m then
      let sign := match rest with
        | '+' :: _ | '-' :: _ => 1
        | _ => 0
      let d := digitRun 10 (rest.drop sign)
      if d > 0 then some (1 + sign + d) else none
    else none
  | [] => none

/-- The length of `0`, a prefix mark of `marked` characters, an optional `_` and digits in
base `b`, at the start of `cs`. -/
def prefixedLength (b marked : Nat) (cs : List Char) : Option Nat :=
  let rest := cs.drop marked
  let u := if rest.head? == some '_' then 1 else 0
  let d := digitRun b (rest.drop u)
  if d > 0 then some (marked + u + d) else none

/-- The lengths of the integer literals that `cs` starts with. -/
def intLengths (cs : List Char) : List Nat :=
  match cs with
  | '0' :: m :: _ =>
    let marked :=
      if m == 'x' || m == 'X' then [prefixedLength 16 2 cs]
      else if m == 'b' || m == 'B' then [prefixedLength 2 2 cs]
      else if m == 'o' || m == 'O' then [prefixedLength 8 2 cs]
      else [prefixedLength 8 1 cs]
    1 :: marked.filterMap id
  | ['0'] => [1]
  | c :: _ => if c.isDigit then [digitRun 10 cs] else []
  | [] => []

/-- The length of a hexadecimal float literal at the start of `cs`, which starts with `0x`. -/
def hexFloatLength (cs : List Char) : Option Nat :=
  let rest := cs.drop 2
  let u := if rest.head? == some '_' then 1 else 0
  let h := digitRun 16 (rest.drop u)
  let withPoint :=
    if h > 0 && (rest.drop (u + h)).head? == some '.' then
      [u + h + 1 + digitRun 16 (rest.drop (u + h + 1))]
    else []
  let plain := if h > 0 then [u + h] else []
  let pointFirst :=
    if rest.head? == some '.' then
      let f := digitRun 16 rest.tail
      if f > 0 then [1 + f] else []
    else []
  let whole := (withPoint ++ plain ++ pointFirst).filterMap fun m =>
    (exponentLength ['p', 'P'] (rest.drop m)).map fun p => 2 + m + p
  whole.max?

/-- The lengths of the float literals that `cs` starts with. -/
def floatLengths (cs : List Char) : List Nat :=
  let d := digitRun 10 cs
  let exponent (pos : Nat) := (exponentLength ['e', 'E'] (cs.drop pos)).getD 0
  let pointed :=
    if d > 0 && (cs.drop d).head? == some '.' then
      let f := digitRun 10 (cs.drop (d + 1))
      [d + 1 + f + exponent (d + 1 + f)]
    else []
  let scaled :=
    if d > 0 then ((exponentLength ['e', 'E'] (cs.drop d)).map (d + ·)).toList else []
  let fraction :=
    match cs with
    | '.' :: rest =>
      let f := digitRun 10 rest
      if f > 0 then [1 + f + exponent (1 + f)] else []
    | _ => []
  let hex :=
    match cs with
    | '0' :: m :: _ => if m == 'x' || m == 'X' then (hexFloatLength cs).toList else []
    | _ => []
  pointed ++ scaled ++ fraction ++ hex

/-- The length of the number literal at the start of `cs`: the longest integer, float or
imaginary literal there, zero when there is none. -/
def numberLength (cs : List Char) : Nat :=
  let bases := intLengths cs ++ floatLengths cs
  let imaginary := (digitRun 10 cs :: bases).filterMap fun n =>
    if n > 0 && (cs.drop n).head? == some 'i' then some (n + 1) else none
  ((bases ++ imaginary).max?).getD 0

/-! ## Rune and string literals -/

/-- Whether the first `n` characters of `cs` are hexadecimal digits. -/
def hexDigitsAhead (n : Nat) (cs : List Char) : Bool :=
  (cs.take n).length == n && (cs.take n).all (isDigitIn 16)

/-- The length of a rune literal at the start of `cs`, which starts with its quote: one
character other than a quote or backslash, or an escape, then the closing quote. Zero when
there is none. -/
def runeLength (cs : List Char) : Nat :=
  match cs with
  | '\x27' :: '\\' :: rest =>
    let body := match rest with
      | 'x' :: more => if hexDigitsAhead 2 more then 3 else 0
      | 'u' :: more => if hexDigitsAhead 4 more then 5 else 0
      | 'U' :: more => if hexDigitsAhead 8 more then 9 else 0
      | c :: more =>
        if isDigitIn 8 c && (more.take 2).length == 2 && (more.take 2).all (isDigitIn 8) then 3
        else if "abfnrtv\\\x27\"".toList.contains c then 1
        else 0
      | [] => 0
    if body > 0 && (rest.drop body).head? == some '\x27' then 3 + body else 0
  | '\x27' :: c :: '\x27' :: _ => if c != '\\' && c != '\x27' then 3 else 0
  | _ => 0

/-- The length of an escape after its backslash at the start of `cs`: any character but `x`,
`u` and `U`, two or three decimal digits, `x` and two or more hexadecimal digits, `u` and four,
`U` and eight. Zero when there is none. -/
def escapeLength (cs : List Char) : Nat :=
  match cs with
  | 'x' :: more =>
    let h := (more.takeWhile (isDigitIn 16)).length
    if h ≥ 2 then 1 + h else 0
  | 'u' :: more => if hexDigitsAhead 4 more then 5 else 0
  | 'U' :: more => if hexDigitsAhead 8 more then 9 else 0
  | c :: _ =>
    if c.isDigit then
      let d := ((cs.take 3).takeWhile Char.isDigit).length
      if d ≥ 2 then d else 1
    else 1
  | [] => 0


/-- The length of the longest integer literal at the start of `cs`, zero when there is none. -/
def intLength (cs : List Char) : Nat := (intLengths cs).max?.getD 0

/-- The length of the longest float literal at the start of `cs`, zero when there is none. -/
def floatLength (cs : List Char) : Nat := (floatLengths cs).max?.getD 0

/-- The length of the longest imaginary literal at the start of `cs`: a digit run or a number
followed by `i`; zero when there is none. -/
def imaginaryLength (cs : List Char) : Nat :=
  ((digitRun 10 cs :: intLengths cs ++ floatLengths cs).filterMap fun n =>
    if n > 0 && (cs.drop n).head? == some 'i' then some (n + 1) else none).max?.getD 0

/-- The number of hexadecimal digits at the start of `cs`. -/
def hexRun (cs : List Char) : Nat := (cs.takeWhile (isDigitIn 16)).length

/-- How many characters of a rune escape body (after the backslash) the rune pattern reads
before it fails: up to two hexadecimal digits after `x`, four after `u`, eight after `U`, three
octal digits, or one of the simple escape letters. -/
def runeEscapePartial : List Char → Nat
  | 'x' :: more => 1 + min 2 (hexRun more)
  | 'u' :: more => 1 + min 4 (hexRun more)
  | 'U' :: more => 1 + min 8 (hexRun more)
  | c :: more =>
    if isDigitIn 8 c then min 3 (((c :: more).takeWhile (isDigitIn 8)).length)
    else if "abfnrtv\\\x27\"".toList.contains c then 1
    else 0
  | [] => 0

/-- How many characters a rune that does not close reads before it fails, for `cs` starting
with a single quote: the quote, then a character or an escape as far as it goes. -/
def runePartial : List Char → Nat
  | '\x27' :: '\\' :: rest => 2 + runeEscapePartial rest
  | '\x27' :: c :: _ => if c == '\x27' then 1 else 2
  | ['\x27'] => 1
  | _ => 0

/-- How many characters an escape that is not one reads before it fails, for `cs` starting
with a backslash: the backslash, the letter and the hexadecimal digits that follow. -/
def escapePartial : List Char → Nat
  | '\\' :: 'x' :: more => 2 + hexRun more
  | '\\' :: 'u' :: more => 2 + min 3 (hexRun more)
  | '\\' :: 'U' :: more => 2 + min 7 (hexRun more)
  | ['\\'] => 1
  | _ => 0

/-- The length of the text of a raw string literal at the start of `cs`: everything up to the
next backquote, line breaks and spaces included; zero right before one. -/
def rawContentLength (cs : List Char) : Nat := (cs.takeWhile (· != '`')).length

/-- The length of a comment at the start of `cs`: `//` up to the end of the line, or `/*` up
to and with the next `*/`; zero when there is none. -/
def commentLength (cs : List Char) : Nat :=
  match cs with
  | '/' :: '/' :: rest => 2 + (rest.takeWhile (· != '\n')).length
  | '/' :: '*' :: rest => blockEnd rest 2
  | _ => 0
where
  /-- The length up to and with the first `*/`, having read `n` characters; zero when there is
  none. -/
  blockEnd : List Char → Nat → Nat
    | '*' :: '/' :: _, n => n + 2
    | _ :: rest, n => blockEnd rest (n + 1)
    | [], _ => 0

/-- The length of an identifier at the start of `cs`. -/
def identifierLength : List Char → Nat
  | c :: rest => if isIdentStart c then 1 + (rest.takeWhile isIdentContinue).length else 0
  | [] => 0

/-- The length of the text of an interpreted string at the start of `cs`: characters other
than a double quote, a backslash and a line break. -/
def stringContentLength (cs : List Char) : Nat :=
  (cs.takeWhile fun c => c != '"' && c != '\\' && c != '\n').length

/-- The length of an escape sequence at the start of `cs`, which starts with a backslash; zero
when there is none. -/
def escapeSequenceLength : List Char → Nat
  | '\\' :: rest => let n := escapeLength rest; if n = 0 then 0 else n + 1
  | _ => 0

end Localize.Go
