import Localize.Numeric.Binary64
import Localize.Json.Problem

/-! # Reading JSON text

The text is read byte by byte from a cursor that knows its line and column. Reading never
backtracks: every step either consumes bytes or stops with an error at the place reached.
Errors about the byte ahead are placed one byte further (on the byte itself, counting
columns from 1); errors about what was already read are placed where reading stands.

A reader is a computation over the cursor that may fail; the cursor keeps what a failed
reader consumed, so the place of a later error reflects it.

Loops carry an explicit bound. Each turn of a loop consumes at least one byte, or is followed
by one that does, so a bound of three turns per byte of the text is never reached.
-/

namespace Localize.Json

/-- Where reading stands in a text: the bytes left, the line (from 1) and the number of bytes
read on the line. -/
structure Cursor where
  rest : List UInt8
  line : Nat := 1
  column : Nat := 0
deriving Repr

/-- A cursor at the start of a text. -/
def Cursor.start (text : String) : Cursor := { rest := text.toUTF8.toList }

/-- The place where reading stands. -/
def Cursor.position (c : Cursor) : Position := ⟨c.line, c.column⟩

/-- The place of the byte ahead: one byte further, unless the text has ended. -/
def Cursor.peekPosition (c : Cursor) : Position :=
  match c.rest with
  | [] => ⟨c.line, c.column⟩
  | 10 :: _ => ⟨c.line + 1, 0⟩
  | _ :: _ => ⟨c.line, c.column + 1⟩

/-- The cursor one byte further. -/
def Cursor.advance (c : Cursor) : Cursor :=
  match c.rest with
  | [] => c
  | b :: bs => if b = 10 then { rest := bs, line := c.line + 1, column := 0 }
    else { rest := bs, line := c.line, column := c.column + 1 }

/-- The cursor `n` bytes further. -/
def Cursor.advanceBy : Nat → Cursor → Cursor
  | 0, c => c
  | n + 1, c => Cursor.advanceBy n c.advance

/-- Whether a byte is JSON whitespace: space, newline, tab or carriage return. -/
def isSpace (b : UInt8) : Bool := b == 32 || b == 10 || b == 9 || b == 13

/-- Whether a byte is a decimal digit. -/
def isDigit (b : UInt8) : Bool := 48 ≤ b && b ≤ 57

/-- The cursor past the whitespace ahead. -/
def Cursor.skipSpace (c : Cursor) : Cursor :=
  Cursor.advanceBy (c.rest.takeWhile isSpace).length c

/-- A reader of JSON text. -/
abbrev Scan := ExceptT JsonError (StateM Cursor)

namespace Scan

/-- The byte ahead. -/
def peek : Scan (Option UInt8) := do return (← get).rest.head?

/-- Consumes one byte. -/
def eat : Scan Unit := modify Cursor.advance

/-- Consumes and returns the byte ahead. -/
def next : Scan (Option UInt8) := do
  let b ← peek
  eat
  return b

/-- Skips whitespace and returns the byte ahead. -/
def peekValue : Scan (Option UInt8) := do
  modify Cursor.skipSpace
  peek

/-- Fails with a syntax error where reading stands. -/
def fail (code : SyntaxCode) : Scan α := do
  throw ⟨.malformed code, some (← get).position⟩

/-- Fails with a syntax error on the byte ahead. -/
def failAhead (code : SyntaxCode) : Scan α := do
  throw ⟨.malformed code, some (← get).peekPosition⟩

/-- Fails with a shape error, placed where reading stands. -/
def reject (problem : Problem) : Scan α := do
  throw ⟨problem, some (← get).position⟩

/-- Runs a reader and places any error without a place where reading stands afterwards. -/
def placed (r : Scan α) : Scan α :=
  tryCatch r fun e => do throw (e.placeAt (← get).position)

/-- Consumes the digits ahead and returns their values. -/
def digits : Scan (List Nat) := do
  let c ← get
  let run := c.rest.takeWhile isDigit
  set (Cursor.advanceBy run.length c)
  return run.map fun b => (b - 48).toNat

/-- Reads the rest of a literal word (`ull` after `n`, say). -/
def word (expected : List UInt8) : Scan Unit := do
  for e in expected do
    match ← next with
    | none => fail .eofValue
    | some b => if b != e then fail .expectedIdent

/-- The value of a hexadecimal digit. -/
def hexValue (b : UInt8) : Option Nat :=
  if 48 ≤ b && b ≤ 57 then some (b - 48).toNat
  else if 97 ≤ b && b ≤ 102 then some (b - 87).toNat
  else if 65 ≤ b && b ≤ 70 then some (b - 55).toNat
  else none

/-- Reads the four hexadecimal digits of a `\u` escape. -/
def hex4 : Scan Nat := do
  let c ← get
  match c.rest with
  | a :: b :: d :: e :: _ =>
    set (Cursor.advanceBy 4 c)
    match hexValue a, hexValue b, hexValue d, hexValue e with
    | some w, some x, some y, some z => return ((w * 16 + x) * 16 + y) * 16 + z
    | _, _, _, _ => fail .invalidEscape
  | _ =>
    set (Cursor.advanceBy c.rest.length c)
    fail .eofString

/-- The UTF-8 bytes of a code point. -/
def utf8 (n : Nat) : List UInt8 := (Char.ofNat n).toString.toUTF8.toList

/-- Reads a `\u` escape (after the `u`): a code point, or a surrogate pair. -/
def unicodeEscape : Scan (List UInt8) := do
  let n ← hex4
  if 0xDC00 ≤ n && n ≤ 0xDFFF then fail .loneLeadingSurrogate
  if n < 0xD800 || n > 0xDBFF then return utf8 n
  match ← peek with
  | none => fail .eofString
  | some b => eat; if b != 92 then fail .unexpectedEndOfHexEscape
  match ← peek with
  | none => fail .eofString
  | some b => eat; if b != 117 then fail .unexpectedEndOfHexEscape
  let low ← hex4
  if low < 0xDC00 || low > 0xDFFF then fail .loneLeadingSurrogate
  return utf8 ((((n - 0xD800) <<< 10) ||| (low - 0xDC00)) + 0x10000)

/-- Reads an escape (after the backslash) and returns the bytes it stands for. -/
def escape : Scan (List UInt8) := do
  match ← next with
  | none => fail .eofString
  | some 34 => return [34]
  | some 92 => return [92]
  | some 47 => return [47]
  | some 98 => return [8]
  | some 102 => return [12]
  | some 110 => return [10]
  | some 114 => return [13]
  | some 116 => return [9]
  | some 117 => unicodeEscape
  | some _ => fail .invalidEscape

/-- Reads the rest of a string (after its opening quote), collecting its bytes in reverse. -/
def stringBytes : Nat → List UInt8 → Scan (List UInt8)
  | 0, _ => fail .eofString
  | fuel + 1, acc => do
    match ← peek with
    | none => fail .eofString
    | some 34 => eat; return acc.reverse
    | some 92 => eat; let bytes ← escape; stringBytes fuel (bytes.reverse ++ acc)
    | some b =>
      eat
      if b < 32 then fail .controlCharacter
      stringBytes fuel (b :: acc)

/-- A bound on the number of loop turns over the text ahead. -/
def bound : Scan Nat := do return (← get).rest.length + 1

/-- Reads the rest of a string (after its opening quote). -/
def string : Scan String := do
  let bytes ← stringBytes (← bound) []
  return (String.fromUTF8? (ByteArray.mk bytes.toArray)).getD ""

/-- Skips an escape (after the backslash), checking only its form. -/
def skipEscape : Scan Unit := do
  match ← next with
  | none => fail .eofString
  | some b =>
    if b == 117 then discard hex4
    else if [34, 92, 47, 98, 102, 110, 114, 116].contains b then pure ()
    else fail .invalidEscape

/-- Skips the rest of a string (after its opening quote). -/
def skipStringFrom : Nat → Scan Unit
  | 0 => fail .eofString
  | fuel + 1 => do
    match ← peek with
    | none => fail .eofString
    | some 34 => eat
    | some 92 => eat; skipEscape; skipStringFrom fuel
    | some b =>
      if b < 32 then fail .controlCharacter
      eat
      skipStringFrom fuel

/-- Skips the rest of a string (after its opening quote). -/
def skipString : Scan Unit := do skipStringFrom (← bound)

/-- Skips the exponent of a number (at its `e`). -/
def skipExponent : Scan Unit := do
  eat
  if let some b := ← peek then
    if b == 43 || b == 45 then eat
  match ← next with
  | some b => if isDigit b then discard digits else fail .invalidNumber
  | none => fail .invalidNumber

/-- Skips a number (after any minus sign), checking its form. -/
def skipNumber : Scan Unit := do
  match ← next with
  | some 48 =>
    if let some b := ← peek then
      if isDigit b then failAhead .invalidNumber
  | some b => if isDigit b then discard digits else fail .invalidNumber
  | none => fail .invalidNumber
  match ← peek with
  | some 46 =>
    eat
    if (← digits).isEmpty then failAhead .invalidNumber
    if let some b := ← peek then
      if b == 101 || b == 69 then skipExponent
  | some 101 | some 69 => skipExponent
  | _ => pure ()

/-- Where skipping a value stands: about to read a value, or after one inside the open
arrays and objects (`true` for an object), innermost first. -/
inductive Skip where
  | value (enclosing : Option Bool) (open_ : List Bool)
  | after (acceptComma : Bool) (frame : Bool) (open_ : List Bool)

/-- Skips the key and colon of an object member. -/
def skipKey : Scan Unit := do
  match ← peekValue with
  | some 34 => eat
  | some _ => failAhead .keyMustBeString
  | none => failAhead .eofValue
  skipString
  match ← peekValue with
  | some 58 => eat
  | some _ => failAhead .expectedColon
  | none => failAhead .eofObject

/-- Skips values, arrays and objects, checking their form. -/
def skipFrom : Nat → Skip → Scan Unit
  | 0, _ => fail .eofValue
  | fuel + 1, .value enclosing open_ => do
    let opened : Option Bool ← match ← peekValue with
      | none => failAhead .eofValue
      | some 110 => do eat; word [117, 108, 108]; pure none
      | some 116 => do eat; word [114, 117, 101]; pure none
      | some 102 => do eat; word [97, 108, 115, 101]; pure none
      | some 45 => do eat; skipNumber; pure none
      | some 34 => do eat; skipString; pure none
      | some 91 => do eat; pure (some false)
      | some 123 => do eat; pure (some true)
      | some b => if isDigit b then do skipNumber; pure none else failAhead .expectedValue
    match opened with
    | some frame => skipFrom fuel (.after false frame (enclosing.toList ++ open_))
    | none => match enclosing, open_ with
      | some frame, _ => skipFrom fuel (.after true frame open_)
      | none, frame :: rest => skipFrom fuel (.after true frame rest)
      | none, [] => pure ()
  | fuel + 1, .after acceptComma frame open_ => do
    match ← peekValue with
    | some 44 =>
      if acceptComma then
        eat
        if frame then skipKey
        skipFrom fuel (.value (some frame) open_)
      else if frame then do skipKey; skipFrom fuel (.value (some frame) open_)
      else skipFrom fuel (.value (some frame) open_)
    | some b =>
      let closes := (b == 93 && !frame) || (b == 125 && frame)
      if closes then
        eat
        match open_ with
        | [] => pure ()
        | outer :: rest => skipFrom fuel (.after true outer rest)
      else if acceptComma then
        failAhead (if frame then .expectedObjectCommaOrEnd else .expectedListCommaOrEnd)
      else if frame then do skipKey; skipFrom fuel (.value (some frame) open_)
      else skipFrom fuel (.value (some frame) open_)
    | none => failAhead (if frame then .eofObject else .eofList)

/-- Skips one value, checking its form. -/
def skipValue : Scan Unit := do skipFrom (3 * (← bound)) (.value none [])

/-- The largest value of an unsigned 64-bit integer. -/
def maxU64 : Nat := Nat.pow 2 64 - 1

/-- The significand of a digit run, stopping before the first digit that would take it past
`maxU64`, and the number of digits left over. -/
def significandOf (start : Nat) : List Nat → Nat × Nat
  | [] => (start, 0)
  | d :: ds =>
    if start * 10 + d > maxU64 then (start, ds.length + 1)
    else significandOf (start * 10 + d) ds

/-- A float `± significand × 10^exponent` as read, or a range error if it is too large. -/
def floatOf (positive : Bool) (significand : Nat) (exponent : Int) : Scan Number := do
  match decimalValue significand exponent with
  | some v => return .float { v with negative := !positive }
  | none => fail .numberOutOfRange

/-- The value of an exponent's digits after its first, `first`, or the index of the digit
that takes it past the largest 32-bit signed integer. -/
def exponentOf (first : Nat) (run : List Nat) : Nat ⊕ Nat :=
  go first 0 run
where
  /-- Adds the digits of `run`, the first of which has index `i`. -/
  go (acc i : Nat) : List Nat → Nat ⊕ Nat
    | [] => .inl acc
    | d :: ds => if acc * 10 + d > Nat.pow 2 31 - 1 then .inr i else go (acc * 10 + d) (i + 1) ds

/-- Reads the exponent of a number (at its `e`). -/
def exponentPart (positive : Bool) (significand : Nat) (start : Int) : Scan Number := do
  eat
  let positiveExp ← match ← peek with
    | some 43 => do eat; pure true
    | some 45 => do eat; pure false
    | _ => pure true
  let first ← match ← next with
    | none => fail .eofValue
    | some b => if isDigit b then pure (b - 48).toNat else fail .invalidNumber
  let c ← get
  let run := (c.rest.takeWhile isDigit).map fun b => (b - 48).toNat
  match exponentOf first run with
  | .inl e =>
    set (Cursor.advanceBy run.length c)
    floatOf positive significand (if positiveExp then start + e else start - e)
  | .inr i =>
    set (Cursor.advanceBy (i + 1) c)
    if significand ≠ 0 && positiveExp then fail .numberOutOfRange
    discard digits
    return .float (Binary64.zero (!positive))

/-- Reads the fraction of a number (at its `.`); digits past what a 64-bit significand holds
are dropped. -/
def fractionPart (positive : Bool) (significand : Nat) (start : Int) : Scan Number := do
  eat
  let ds ← digits
  if ds.isEmpty then
    match ← peek with
    | some _ => failAhead .invalidNumber
    | none => failAhead .eofValue
  let (whole, dropped) := significandOf significand ds
  let exponent := start - ((ds.length - dropped : Nat) : Int)
  match ← peek with
  | some 101 | some 69 => exponentPart positive whole exponent
  | _ => floatOf positive whole exponent

/-- Reads a number (after any minus sign). -/
def number (positive : Bool) : Scan Number := do
  match ← next with
  | none => fail .eofValue
  | some 48 =>
    if let some b := ← peek then
      if isDigit b then failAhead .invalidNumber
    finish 0 0 false
  | some b =>
    if !isDigit b then fail .invalidNumber
    let ds ← digits
    let (significand, extra) := significandOf (b - 48).toNat ds
    finish significand extra (extra > 0)
where
  /-- The number after its integer digits. -/
  finish (significand extra : Nat) (long : Bool) : Scan Number := do
    match ← peek with
    | some 46 => fractionPart positive significand extra
    | some 101 | some 69 => exponentPart positive significand extra
    | _ =>
      if long then floatOf positive significand extra
      else if positive then return .nat significand
      else if significand ≠ 0 && significand ≤ Nat.pow 2 63 then return .neg (-(significand : Int))
      else floatOf positive significand 0

/-- Fails because the value ahead is not the `expected` kind: names what it is (reading a
string or number to do so), or reports a syntax error if no value starts there. -/
def invalidType (expected : String) : Scan α := do
  let found : Unexpected ← match ← peek with
    | some 110 => do eat; word [117, 108, 108]; pure .null
    | some 116 => do eat; word [114, 117, 101]; pure (.bool true)
    | some 102 => do eat; word [97, 108, 115, 101]; pure (.bool false)
    | some 45 => do eat; pure (.number (← number false))
    | some 34 => do eat; pure (.str (← string))
    | some 91 => pure .seq
    | some 123 => pure .map
    | some b => if isDigit b then do pure (.number (← number true)) else failAhead .expectedValue
    | none => failAhead .expectedValue
  reject (.invalidType found expected)

end Scan

/-- The number `± mantissa × 10 ^ exponent`, written with a fraction or an exponent, as the
reader takes it: the digits of the mantissa past what 64 bits hold count only towards the
exponent. `none` when it is out of range. -/
def Number.ofDecimal (negative : Bool) (mantissa : Nat) (exponent : Int) : Option Number :=
  let (significand, extra) := Scan.significandOf 0 ((Nat.toDigits 10 mantissa).map (·.toNat - 48))
  (decimalValue significand (exponent + extra)).map fun v => .float { v with negative }

end Localize.Json
