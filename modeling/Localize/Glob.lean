import Localize.Text.Find

/-! # Glob patterns for ignored paths

A pattern is read into pieces: `?` is any one character, `*` any run of characters, `**` any
run that ends after a `/` (or the whole rest, at the end of a pattern), `[...]` one character
from a set and `[!...]` one character outside it; every other character stands for itself.
A set lists characters and ranges `a-z`. A `**` must be a whole path component: at the start
or after a `/`, and at the end or before a `/`, which it takes in.

Matching runs over the whole path text. Each piece that stands for one character needs one;
a run of characters first tries to match nothing, then ever longer runs. When the text runs
out before a one-character piece, no shorter rest can match either, so the whole match fails
at once.
-/

namespace Localize.Glob

open Localize.Text

/-- One member of a character set. -/
inductive CharSpec where
  | single (c : Char)
  | range (lo hi : Char)
deriving Repr, DecidableEq

/-- One piece of a compiled pattern. -/
inductive Piece where
  | char (c : Char)
  | anyChar
  | anyRun
  /-- A run of characters that ends after a separator, or the rest of the text. -/
  | anyDirs
  | within (set : List CharSpec)
  | except (set : List CharSpec)
deriving Repr, DecidableEq

/-- Why a pattern does not compile. -/
inductive Reason where
  | wildcards
  | recursiveWildcards
  | invalidRange
deriving Repr, DecidableEq

/-- The text of a reason. -/
def Reason.text : Reason → String
  | .wildcards => "wildcards are either regular \x60*\x60 or recursive \x60**\x60"
  | .recursiveWildcards => "recursive wildcards must form a single path component"
  | .invalidRange => "invalid range pattern"

/-- A pattern that does not compile: the character position near the fault and the reason. -/
structure PatternError where
  position : Nat
  reason : Reason
deriving Repr, DecidableEq

/-- The text that reports a pattern error. -/
def PatternError.message (e : PatternError) : String :=
  "Pattern syntax error near position " ++ toString e.position ++ ": " ++ e.reason.text

/-- The members of a character set written between brackets. -/
def charSpecs : List Char → List CharSpec
  | a :: '-' :: b :: rest => .range a b :: charSpecs rest
  | a :: rest => .single a :: charSpecs rest
  | [] => []

/-- Whether `c` is a member of a character set. -/
def CharSpec.contains (c : Char) : CharSpec → Bool
  | .single d => c == d
  | .range lo hi => lo ≤ c && c ≤ hi

/-- A bracket set at the start of `rest`, the text after a `[`: the piece, the number of
characters after the `[` it takes, and the text after it. -/
def bracket (rest : List Char) :
    Option (Piece × Nat × {after : List Char // after.length ≤ rest.length}) :=
  match rest with
  | '!' :: first :: m :: ms =>
    match (m :: ms).idxOf? ']' with
    | some j => some (.except (charSpecs (first :: (m :: ms).take j)), j + 3,
        ⟨(m :: ms).drop (j + 1), by simp only [List.length_drop, List.length_cons]; omega⟩)
    | none => none
  | first :: m :: ms =>
    if first = '!' then none
    else match (m :: ms).idxOf? ']' with
      | some j => some (.within (charSpecs (first :: (m :: ms).take j)), j + 2,
          ⟨(m :: ms).drop (j + 1), by simp only [List.length_drop, List.length_cons]; omega⟩)
      | none => none
  | _ => none

/-- Appends a `**` piece unless the pieces so far (more than one) already end with one. -/
def pushDirs (pieces : Array Piece) : Array Piece :=
  if pieces.size > 1 && pieces.back? == some .anyDirs then pieces else pieces.push .anyDirs

/-- Compiles the pattern text `cs`, which starts at character position `pos`; `prev` is the
character before it and `pieces` the pieces so far. -/
def compileFrom (prev : Option Char) (pos : Nat) (pieces : Array Piece) (cs : List Char) :
    Except PatternError (Array Piece) :=
  match cs with
  | [] => .ok pieces
  | '?' :: rest => compileFrom (some '?') (pos + 1) (pieces.push .anyChar) rest
  | '*' :: rest =>
    let stars := 1 + (rest.takeWhile (· == '*')).length
    let after := rest.dropWhile (· == '*')
    if stars > 2 then .error ⟨pos + 2, .wildcards⟩
    else if stars = 2 then
      if pos = 0 || prev == some '/' then
        match h : after with
        | '/' :: more => compileFrom (some '/') (pos + 3) (pushDirs pieces) more
        | [] => .ok (pushDirs pieces)
        | _ => .error ⟨pos + 2, .recursiveWildcards⟩
      else .error ⟨pos - 1, .recursiveWildcards⟩
    else compileFrom (some '*') (pos + 1) (pieces.push .anyRun) after
  | '[' :: rest =>
    match bracket rest with
    | some (piece, taken, ⟨after, _⟩) =>
      compileFrom (some ']') (pos + 1 + taken) (pieces.push piece) after
    | none => .error ⟨pos, .invalidRange⟩
  | c :: rest => compileFrom (some c) (pos + 1) (pieces.push (.char c)) rest
termination_by cs.length
decreasing_by
  all_goals simp only [List.length_cons] at *
  all_goals first
    | omega
    | have shorter := (List.dropWhile_suffix (fun x => x == '*') (l := rest)).length_le
      first
        | omega
        | (simp only [after] at h; rw [h, List.length_cons] at shorter; omega)

/-- A compiled pattern. -/
structure Pattern where
  pieces : List Piece
deriving Repr, DecidableEq

/-- Compiles a pattern text. -/
def Pattern.compile (text : String) : Except PatternError Pattern :=
  (compileFrom none 0 #[] text.toList).map fun pieces => ⟨pieces.toList⟩

/-- How a match attempt ends: a match, no match from this point, or no match from any
later point either (the text ran out before a one-character piece). -/
inductive Outcome where
  | matched
  | failedHere
  | failedAll
deriving Repr, DecidableEq

/-- Whether one-character piece `piece` accepts `c`. -/
def Piece.accepts (piece : Piece) (c : Char) : Bool :=
  match piece with
  | .char d => c == d
  | .anyChar => true
  | .within set => set.any (·.contains c)
  | .except set => !set.any (·.contains c)
  | .anyRun | .anyDirs => false

/-- Tries `rest` after runs of ever more characters of `cs`; with `dirs`, only runs that end
with a separator are tried. When `cs` runs out, `rest` is tried on the empty text. -/
def tryRuns (rest : List Char → Outcome) (dirs : Bool) : List Char → Outcome
  | [] => rest []
  | c :: cs =>
    if dirs && c != '/' then tryRuns rest dirs cs
    else match rest cs with
      | .failedHere => tryRuns rest dirs cs
      | outcome => outcome

/-- Matches pieces against the rest of a path text. -/
def matchFrom : List Piece → List Char → Outcome
  | [], cs => if cs.isEmpty then .matched else .failedHere
  | .anyRun :: ps, cs =>
    match matchFrom ps cs with
    | .failedHere => tryRuns (matchFrom ps) false cs
    | outcome => outcome
  | .anyDirs :: ps, cs =>
    match matchFrom ps cs with
    | .failedHere => tryRuns (matchFrom ps) true cs
    | outcome => outcome
  | p :: ps, cs =>
    match cs with
    | [] => .failedAll
    | c :: rest => if p.accepts c then matchFrom ps rest else .failedHere

/-- Whether a pattern matches a whole path text. -/
def Pattern.matches (pattern : Pattern) (path : String) : Bool :=
  matchFrom pattern.pieces path.toList == .matched

/-- Compiles ignore patterns in order; the first that does not compile stops with an error
naming it. -/
def compileIgnores (texts : List String) : Except String (List Pattern) :=
  texts.mapM fun text => match Pattern.compile text with
    | .ok p => .ok p
    | .error e => .error ("Invalid ignore glob pattern: " ++ text ++ ": " ++ e.message)

/-- Whether any of the patterns matches a path. -/
def ignored (patterns : List Pattern) (path : String) : Bool :=
  patterns.any (·.matches path)

end Localize.Glob
