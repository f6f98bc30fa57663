import Localize.Store
import Localize.Text.Bytes
import Localize.Template.Tag

/-! # The tag scanner over byte offsets

The readers of `Localize.Template.Tag` take a template as characters. The scanner here runs as
the program runs: over byte offsets into the text's UTF-8 encoding. Every read cuts the text at
two offsets (`cutBytes`), and a cut outside the text or inside a character would stop the
program (`Stop.panic`); a malformed tag stops the tag's reader with its error (`Stop.failure`).

`TagScanner` keeps a cursor and the number of newlines before it. Each call of `next` looks for
the next message tag from the cursor, yields its message or its error, and moves the cursor past
it with `advanceTo`, which adds the newlines it passes to the count; the line of a tag is the
count at its `{%` plus one. After an error the scanner yields nothing.

Each loop is a step function and a recursion over its outcome: `contextAt` for the search of a
context clause, `blockTagAt` for the body of a block, `step` for the scan. The readers' offsets
only move forward (`skipBlankAt_ge`, `findBetween_bounds`, `blockTagAt_advances`,
`scanTagAt_stop`, `step_passed`), which is what the loops' termination rests on.
-/

namespace Localize.Template

open Localize.Text

/-- Why reading a tag stops: a cut of the text past its end or inside a character, or a
malformed tag. -/
inductive Stop where
  | panic (fault : CutFault)
  | failure (error : ScanError)

/-- A cut of the text as a step of reading a tag. -/
def Stop.ofCut {α : Type} : Except CutFault α → Except Stop α
  | .ok a => .ok a
  | .error fault => .error (.panic fault)

instance : MonadLift (Except CutFault) (Except Stop) := ⟨Stop.ofCut⟩

@[simp] theorem liftM_eq_ofCut {α : Type} (x : Except CutFault α) :
    (liftM x : Except Stop α) = Stop.ofCut x := rfl

@[simp] theorem ofCut_ok {α : Type} (a : α) : Stop.ofCut (.ok a : Except CutFault α) = .ok a := rfl

@[simp] theorem ofCut_error {α : Type} (fault : CutFault) :
    Stop.ofCut (.error fault : Except CutFault α) = .error (.panic fault) := rfl

theorem ofCut_eq_ok {α : Type} {x : Except CutFault α} {a : α} :
    Stop.ofCut x = .ok a ↔ x = .ok a := by
  cases x <;> simp [Stop.ofCut]

theorem byteLength_closeMark : byteLength closeMark = 2 := rfl

theorem byteLength_openMark : byteLength openMark = 2 := rfl

/-! ## Reading at an offset -/

/-- The offset of the first character at or after `pos` that is not blank, or the end of the
text. Each step cuts the text at the offset it has reached. -/
def skipBlankAt (cs : List Char) (pos : Nat) : Except CutFault Nat :=
  match h : cutBytes cs pos (byteLength cs) with
  | .error fault => .error fault
  | .ok [] => .ok pos
  | .ok (c :: _) => if isBlank c then skipBlankAt cs (pos + c.utf8Size) else .ok pos
termination_by byteLength cs - pos
decreasing_by
  obtain ⟨pre, post, -, rfl, size⟩ := cutBytes_eq_ok h
  have := c.utf8Size_pos
  simp only [byteLength_cons] at size
  omega

theorem skipBlankAt_ge {cs : List Char} {pos p : Nat} (skipped : skipBlankAt cs pos = .ok p) :
    pos ≤ p := by
  fun_induction skipBlankAt cs pos with
  | case1 => cases skipped
  | case2 => cases skipped; exact Nat.le_refl _
  | case3 _ c _ _ blank ih => exact Nat.le_trans (Nat.le_add_right _ _) (ih skipped)
  | case4 => cases skipped; exact Nat.le_refl _

/-- The offset of the first occurrence of `needle` between `start` and `stop`. -/
def findBetween (cs : List Char) (start stop : Nat) (needle : List Char) :
    Except CutFault (Option Nat) := do
  let region ← cutBytes cs start stop
  pure ((breakOn needle region).map fun found => start + byteLength found.1)

/-- An occurrence found stands at or after the start, and ends by the stop. -/
theorem findBetween_bounds {cs needle : List Char} {start stop p : Nat}
    (found : findBetween cs start stop needle = .ok (some p)) :
    start ≤ p ∧ p + byteLength needle ≤ stop := by
  simp only [findBetween, bind, Except.bind] at found
  split at found
  · cases found
  · rename_i region cut
    obtain ⟨pre, post, split, rfl, rfl⟩ := cutBytes_eq_ok cut
    simp only [pure, Except.pure, Except.ok.injEq, Option.map_eq_some_iff] at found
    obtain ⟨⟨before, after⟩, broken, rfl⟩ := found
    have parts := congrArg byteLength (breakOn_eq_some broken)
    simp only [byteLength_append] at parts
    dsimp only
    omega

/-- The offset of the first occurrence of `needle` at or after `start`. -/
def findAt (cs : List Char) (start : Nat) (needle : List Char) : Except CutFault (Option Nat) :=
  findBetween cs start (byteLength cs) needle

/-- An occurrence found stands at or after the start, and the text holds it whole. -/
theorem findAt_bounds {cs needle : List Char} {start p : Nat}
    (found : findAt cs start needle = .ok (some p)) :
    start ≤ p ∧ p + byteLength needle ≤ byteLength cs :=
  findBetween_bounds found

/-- Whether `word` stands at `pos` as a whole word: followed by the close mark or a blank. -/
def wordStandsAt (cs : List Char) (pos : Nat) (word : List Char) : Except CutFault Bool := do
  let rest ← cutBytes cs pos (byteLength cs)
  if startsWith word rest then
    let after ← cutBytes rest (byteLength word) (byteLength rest)
    pure (startsWith closeMark after || startsBlank after)
  else pure false

/-- The first keyword of `table` that stands at `pos`, and the offset after it. An inline
keyword followed directly by the close mark does not count. -/
def keywordFrom (cs : List Char) (pos : Nat) :
    List (List Char × Opener) → Except CutFault (Option (Opener × Nat))
  | [] => pure none
  | (word, opener) :: table => do
    if ← wordStandsAt cs pos word then
      if opener = .inline then
        let after ← cutBytes cs (pos + byteLength word) (byteLength cs)
        if startsWith closeMark after then keywordFrom cs pos table
        else pure (some (opener, pos + byteLength word))
      else pure (some (opener, pos + byteLength word))
    else keywordFrom cs pos table

/-- The message keyword that stands at `pos`, and the offset after it. -/
def keywordAt (cs : List Char) (pos : Nat) : Except CutFault (Option (Opener × Nat)) :=
  keywordFrom cs pos keywords

theorem keywordFrom_ge {cs : List Char} {pos after : Nat} {opener : Opener}
    {table : List (List Char × Opener)} (found : keywordFrom cs pos table = .ok (some (opener, after))) :
    pos ≤ after := by
  induction table with
  | nil => cases found
  | cons entry table ih =>
    obtain ⟨word, o⟩ := entry
    simp only [keywordFrom, bind, Except.bind] at found
    split at found
    · cases found
    · split at found
      · split at found
        · split at found
          · cases found
          · split at found
            · exact ih found
            · cases found; exact Nat.le_add_right _ _
        · cases found; exact Nat.le_add_right _ _
      · exact ih found

/-- What a quoted string at an offset gives: no quote there, no closing quote before the limit,
or the string's content and the offset after its closing quote. -/
inductive QuoteSpan where
  | missing
  | unterminated
  | found (value : List Char) (stop : Nat)

/-- Reads a quoted string at `pos`, which must close before `limit`: a single or double quote,
then everything up to the next quote of the same kind. -/
def quotedBetween (cs : List Char) (pos limit : Nat) : Except CutFault QuoteSpan := do
  match ← cutBytes cs pos limit with
  | [] => pure .missing
  | q :: _ =>
    if q = '"' || q = '\x27' then
      let region ← cutBytes cs (pos + 1) limit
      match breakOn [q] region with
      | some (value, _) =>
        let value ← cutBytes cs (pos + 1) (pos + 1 + byteLength value)
        pure (.found value (pos + 1 + byteLength value + 1))
      | none => pure .unterminated
    else pure .missing

/-- What the `context` keyword found at `keyword` gives, in a tag whose clause ends at `limit`.
When the keyword counts, after a blank and as a whole word, it gives the clause: the string
after it, or none when no string follows. When it does not count, it gives nothing and the
search goes on after it. -/
def contextAt (cs : List Char) (limit line keyword : Nat) :
    Except Stop (Option (Option String)) := do
  let head ← cutBytes cs 0 keyword
  if head.getLast?.any isBlank then
    if ← wordStandsAt cs keyword contextWord then
      let start := min (← skipBlankAt cs (keyword + byteLength contextWord)) limit
      match ← quotedBetween cs start limit with
      | .found value _ => pure (some (some (String.ofList value)))
      | .unterminated => throw (.failure (.unterminatedContext line))
      | .missing => pure (some none)
    else pure none
  else pure none

/-- Looks for a `context "..."` clause from `search` up to `limit`: the first `context` keyword
that counts decides. -/
def contextClauseAt (cs : List Char) (limit line search : Nat) : Except Stop (Option String) :=
  match h : findBetween cs search limit contextWord with
  | .error fault => .error (.panic fault)
  | .ok none => .ok none
  | .ok (some keyword) =>
    match contextAt cs limit line keyword with
    | .error stop => .error stop
    | .ok (some clause) => .ok clause
    | .ok none => contextClauseAt cs limit line (keyword + byteLength contextWord)
termination_by limit - search
decreasing_by
  have bounds := findBetween_bounds h
  have word : byteLength contextWord = 7 := rfl
  omega

/-! ## Reading a tag -/

/-- What reading a tag gives: its message, if it has one, and the offset after the tag. -/
structure TagScan where
  message : Option TagMessage
  stop : Nat

/-- Reads an inline tag whose keyword ends at `pos`, up to its close mark. A tag whose argument
is not a quoted string gives no message. -/
def scanTransAt (cs : List Char) (pos line : Nat) : Except Stop TagScan := do
  let some close ← findAt cs pos closeMark | throw (.failure (.unterminatedTag line))
  let start := min (← skipBlankAt cs pos) close
  match ← quotedBetween cs start close with
  | .missing => pure ⟨none, close + byteLength closeMark⟩
  | .unterminated => throw (.failure (.unterminatedString line))
  | .found value after =>
    let context ← contextClauseAt cs close line after
    pure ⟨some ⟨line, String.ofList value, "", context.getD ""⟩, close + byteLength closeMark⟩

theorem scanTransAt_stop {cs : List Char} {pos line : Nat} {scan : TagScan}
    (read : scanTransAt cs pos line = .ok scan) : pos < scan.stop := by
  cases found : findAt cs pos closeMark with
  | error fault => simp [scanTransAt, found, bind, Except.bind] at read
  | ok close? =>
    cases close? with
    | none => simp [scanTransAt, found, bind, Except.bind, throw, throwThe, MonadExceptOf.throw] at read
    | some close =>
      have bounds := findAt_bounds found
      have stop_after : pos < close + byteLength closeMark := by
        rw [byteLength_closeMark]; omega
      simp only [scanTransAt, found, liftM_eq_ofCut, ofCut_ok, bind, Except.bind] at read
      -- every way the tag reads ends after its close mark
      repeat' split at read
      all_goals first
        | (cases read; exact stop_after)
        | cases read

/-- The singular and the plural of a block: the text before the `plural` tag and the segment
after it, or the segment alone. -/
def blockForms (singular : Option (List Char)) (segment : List Char) : List Char × List Char :=
  match singular with
  | some one => (one, segment)
  | none => (segment, [])

/-- Reads the end tag of a block, whose `{%` stands at `mark` and whose keyword starts at
`keyword`: the message is the body read since `bodyStart`, and the scan goes on after the end
tag's close mark. -/
def blockEndAt (cs : List Char) (line : Nat) (context : String) (singular : Option (List Char))
    (bodyStart mark keyword : Nat) : Except Stop TagScan := do
  let some close ← findAt cs keyword closeMark | throw (.failure (.unterminatedTag line))
  let segment ← cutBytes cs bodyStart mark
  let forms := blockForms singular segment
  pure ⟨some ⟨line, String.ofList (collapsePlaceholders forms.1),
    String.ofList (collapsePlaceholders forms.2), context⟩, close + byteLength closeMark⟩

theorem blockEndAt_stop {cs : List Char} {line bodyStart mark keyword : Nat} {context : String}
    {singular : Option (List Char)} {scan : TagScan}
    (read : blockEndAt cs line context singular bodyStart mark keyword = .ok scan) :
    keyword < scan.stop := by
  cases found : findAt cs keyword closeMark with
  | error fault => simp [blockEndAt, found, bind, Except.bind] at read
  | ok close? =>
    cases close? with
    | none =>
      simp [blockEndAt, found, bind, Except.bind, throw, throwThe, MonadExceptOf.throw] at read
    | some close =>
      have bounds := findAt_bounds found
      simp only [blockEndAt, found, liftM_eq_ofCut, ofCut_ok, bind, Except.bind] at read
      split at read
      · cases read
      · cases read
        simp only [byteLength_closeMark]
        omega

/-- Whether the tag whose keyword starts at `keyword` is the `plural` tag of a block whose
singular is still to be read. -/
def pluralAt (cs : List Char) (singular : Option (List Char)) (keyword : Nat) :
    Except CutFault Bool :=
  if singular.isNone then wordStandsAt cs keyword pluralWord else pure false

/-- The next tag in the body of a block. -/
inductive BodyTag where
  /-- The `plural` tag: the singular before it and the offset after its close mark. -/
  | plural (singular : List Char) (next : Nat)
  /-- The end tag: what the block reads as. -/
  | close (scan : TagScan)
  /-- Any other tag, which is part of the body: the search goes on from `next`. -/
  | other (next : Nat)

/-- The offset the reading of a block reaches with the tag. -/
def BodyTag.reach : BodyTag → Nat
  | .plural _ next => next
  | .close scan => scan.stop
  | .other next => next

/-- Reads the next tag of the body of a block from `search` on. `bodyStart` is where the text
read since the last tag that counted begins, and `singular` is the singular once a `plural` tag
has been passed. -/
def blockTagAt (cs : List Char) (line : Nat) (closing : List Char) (context : String)
    (singular : Option (List Char)) (bodyStart search : Nat) : Except Stop BodyTag := do
  let some mark ← findAt cs search openMark
    | throw (.failure (.unterminatedBlock line (String.ofList closing)))
  let keyword ← skipBlankAt cs (mark + byteLength openMark)
  if ← pluralAt cs singular keyword then
    let one ← cutBytes cs bodyStart mark
    let some close ← findAt cs keyword closeMark | throw (.failure (.unterminatedTag line))
    pure (.plural one (close + byteLength closeMark))
  else if ← wordStandsAt cs keyword closing then
    pure (.close (← blockEndAt cs line context singular bodyStart mark keyword))
  else pure (.other (mark + byteLength openMark))

/-- The tag read stands inside the text, and reading it moves past `search`. -/
theorem blockTagAt_advances {cs closing : List Char} {line bodyStart search : Nat}
    {context : String} {singular : Option (List Char)} {tag : BodyTag}
    (read : blockTagAt cs line closing context singular bodyStart search = .ok tag) :
    search < byteLength cs ∧ search < tag.reach := by
  cases found : findAt cs search openMark with
  | error fault => simp [blockTagAt, found, bind, Except.bind] at read
  | ok mark? =>
    cases mark? with
    | none =>
      simp [blockTagAt, found, bind, Except.bind, throw, throwThe, MonadExceptOf.throw] at read
    | some mark =>
      have bounds := findAt_bounds found
      rw [byteLength_openMark] at bounds
      refine ⟨by omega, ?_⟩
      cases skipped : skipBlankAt cs (mark + byteLength openMark) with
      | error fault => simp [blockTagAt, found, skipped, bind, Except.bind] at read
      | ok keyword =>
        have past := skipBlankAt_ge skipped
        rw [byteLength_openMark] at past
        simp only [blockTagAt, found, skipped, liftM_eq_ofCut, ofCut_ok, bind, Except.bind] at read
        repeat' split at read
        all_goals try cases read
        -- the `plural` tag ends after its close mark
        · rename_i closed
          have := findAt_bounds (ofCut_eq_ok.mp closed)
          simp only [BodyTag.reach, byteLength_closeMark] at this ⊢
          omega
        -- the end tag ends after its keyword
        · rename_i ended
          have := blockEndAt_stop ended
          simp only [BodyTag.reach]
          omega
        -- any other tag is passed after its `{%`
        · simp only [BodyTag.reach, byteLength_openMark]
          omega

/-- Reads the body of a block tag from `search` on, tag by tag, up to its end tag. -/
def blockBodyAt (cs : List Char) (line : Nat) (closing : List Char) (context : String)
    (singular : Option (List Char)) (bodyStart search : Nat) : Except Stop TagScan :=
  match h : blockTagAt cs line closing context singular bodyStart search with
  | .error stop => .error stop
  | .ok (.plural one next) => blockBodyAt cs line closing context (some one) next next
  | .ok (.close scan) => .ok scan
  | .ok (.other next) => blockBodyAt cs line closing context singular bodyStart next
termination_by byteLength cs - search
decreasing_by
  all_goals
    have advances := blockTagAt_advances h
    simp only [BodyTag.reach] at advances
    omega

theorem blockBodyAt_stop {cs closing : List Char} {line bodyStart search : Nat} {context : String}
    {singular : Option (List Char)} {scan : TagScan}
    (read : blockBodyAt cs line closing context singular bodyStart search = .ok scan) :
    search < scan.stop := by
  fun_induction blockBodyAt cs line closing context singular bodyStart search with
  | case1 => cases read
  | case2 _ _ search _ _ tagged ih =>
    have := blockTagAt_advances tagged
    have := ih read
    simp only [BodyTag.reach] at *
    omega
  | case3 _ _ search _ tagged =>
    cases read
    simpa [BodyTag.reach] using (blockTagAt_advances tagged).2
  | case4 _ _ search _ tagged ih =>
    have := blockTagAt_advances tagged
    have := ih read
    simp only [BodyTag.reach] at *
    omega

/-- Reads a block tag whose keyword ends at `pos`: the opening tag up to its close mark, with
an optional context clause, then the body up to the end tag `closing`. -/
def scanBlockAt (cs : List Char) (pos line : Nat) (closing : List Char) : Except Stop TagScan := do
  let some close ← findAt cs pos closeMark | throw (.failure (.unterminatedTag line))
  let context ← contextClauseAt cs close line pos
  blockBodyAt cs line closing (context.getD "") none (close + byteLength closeMark)
    (close + byteLength closeMark)

theorem scanBlockAt_stop {cs closing : List Char} {pos line : Nat} {scan : TagScan}
    (read : scanBlockAt cs pos line closing = .ok scan) : pos < scan.stop := by
  cases found : findAt cs pos closeMark with
  | error fault => simp [scanBlockAt, found, bind, Except.bind] at read
  | ok close? =>
    cases close? with
    | none =>
      simp [scanBlockAt, found, bind, Except.bind, throw, throwThe, MonadExceptOf.throw] at read
    | some close =>
      have bounds := findAt_bounds found
      simp only [scanBlockAt, found, liftM_eq_ofCut, ofCut_ok, bind, Except.bind] at read
      split at read
      · cases read
      · have := blockBodyAt_stop read
        omega

/-- Reads the message tag whose keyword, of kind `opener`, ends at `pos`. -/
def scanTagAt (cs : List Char) (pos line : Nat) : Opener → Except Stop TagScan
  | .inline => scanTransAt cs pos line
  | .block closing => scanBlockAt cs pos line closing

theorem scanTagAt_stop {cs : List Char} {pos line : Nat} {opener : Opener} {scan : TagScan}
    (read : scanTagAt cs pos line opener = .ok scan) : pos < scan.stop := by
  cases opener with
  | inline => exact scanTransAt_stop read
  | block closing => exact scanBlockAt_stop read

/-! ## The scanner -/

/-- A scan of a template in progress: the template, the byte offset of the cursor, the number
of newlines before the cursor, and whether a malformed tag has stopped the scan. -/
structure TagScanner where
  chars : List Char
  cursor : Nat
  newlines : Nat
  failed : Bool

namespace TagScanner

/-- The scanner at the start of `text`. -/
def new (text : String) : TagScanner := ⟨text.toList, 0, 0, false⟩

/-- Moves the cursor to `pos` and counts the newlines it passes. -/
def advanceTo (s : TagScanner) (pos : Nat) : Except CutFault TagScanner := do
  let passed ← cutBytes s.chars s.cursor pos
  pure { s with cursor := pos, newlines := s.newlines + passed.count '\n' }

theorem advanceTo_eq_ok {s s' : TagScanner} {pos : Nat} (moved : s.advanceTo pos = .ok s') :
    ∃ passed, cutBytes s.chars s.cursor pos = .ok passed ∧
      s' = { s with cursor := pos, newlines := s.newlines + passed.count '\n' } := by
  simp only [advanceTo, bind, Except.bind] at moved
  split at moved
  · cases moved
  · rename_i passed cut
    cases moved
    exact ⟨passed, cut, rfl⟩

/-- What one step of the scan finds. -/
inductive Sought where
  /-- No `{%` is left. -/
  | finished
  /-- A tag that yields nothing; the scan goes on from `past`. -/
  | passed (past : TagScanner)
  /-- A tag that yields `item`, with the scanner after it. -/
  | yielded (item : Except ScanError TagMessage) (past : TagScanner)

/-- Reads the tag whose `{%` stands at the cursor. A tag that is not a message tag, or a message
tag without a message, is passed; a message is yielded with the scanner past its tag, an error
with the scanner stopped at the tag's `{%`. -/
def readTag (s : TagScanner) : Except CutFault Sought := do
  let keyword ← skipBlankAt s.chars (s.cursor + byteLength openMark)
  match ← keywordAt s.chars keyword with
  | none => return .passed (← s.advanceTo (s.cursor + byteLength openMark))
  | some (opener, after) =>
    match scanTagAt s.chars after (s.newlines + 1) opener with
    | .error (.panic fault) => throw fault
    | .error (.failure e) => return .yielded (.error e) { s with failed := true }
    | .ok scan =>
      let past ← s.advanceTo scan.stop
      return match scan.message with
        | some message => .yielded (.ok message) past
        | none => .passed past

/-- One step of the scan: finds the next `{%` from the cursor on and reads the tag there. -/
def step (s : TagScanner) : Except CutFault Sought := do
  let some mark ← findAt s.chars s.cursor openMark | pure .finished
  (← s.advanceTo mark).readTag

/-- What is left to scan: twice the bytes after the cursor, and one more until the scan stops
at an error. -/
def remaining (s : TagScanner) : Nat :=
  2 * (byteLength s.chars - s.cursor) + if s.failed then 0 else 1

/-- Where reading a tag at the cursor of `s` leaves the scanner: past the tag, with the scan
going on, or stopped at the tag after an error. -/
def Sought.Moves (s : TagScanner) : Sought → Prop
  | .finished => False
  | .passed past | .yielded (.ok _) past =>
    past.chars = s.chars ∧ past.failed = s.failed ∧ s.cursor < past.cursor
  | .yielded (.error _) past => past = { s with failed := true }

theorem readTag_moves {s : TagScanner} {sought : Sought} (read : s.readTag = .ok sought) :
    sought.Moves s := by
  cases skipped : skipBlankAt s.chars (s.cursor + byteLength openMark) with
  | error fault => simp [readTag, skipped, bind, Except.bind] at read
  | ok keyword =>
    have past_mark := skipBlankAt_ge skipped
    cases word : keywordAt s.chars keyword with
    | error fault => simp [readTag, skipped, word, bind, Except.bind] at read
    | ok found =>
      cases found with
      | none =>
        -- a tag that is not a message tag is passed after its `{%`
        cases moved : s.advanceTo (s.cursor + byteLength openMark) with
        | error fault => simp [readTag, skipped, word, moved, bind, Except.bind] at read
        | ok past =>
          simp only [readTag, skipped, word, moved, bind, Except.bind, pure, Except.pure,
            Except.ok.injEq] at read
          subst read
          obtain ⟨_, _, rfl⟩ := advanceTo_eq_ok moved
          simp [Sought.Moves, byteLength_openMark]
      | some entry =>
        obtain ⟨opener, after⟩ := entry
        have past_keyword := keywordFrom_ge word
        cases scanned : scanTagAt s.chars after (s.newlines + 1) opener with
        | error stop =>
          cases stop with
          | panic fault =>
            simp [readTag, skipped, word, scanned, bind, Except.bind, throw, throwThe,
              MonadExceptOf.throw] at read
          | failure e =>
            simp only [readTag, skipped, word, scanned, bind, Except.bind, pure, Except.pure,
              Except.ok.injEq] at read
            subst read
            rfl
        | ok scan =>
          -- a message tag is read past its close mark
          have past_tag := scanTagAt_stop scanned
          cases moved : s.advanceTo scan.stop with
          | error fault => simp [readTag, skipped, word, scanned, moved, bind, Except.bind] at read
          | ok past =>
            obtain ⟨_, _, rfl⟩ := advanceTo_eq_ok moved
            have forward : s.cursor < scan.stop := by rw [byteLength_openMark] at past_mark; omega
            simp only [readTag, skipped, word, scanned, moved, bind, Except.bind, pure,
              Except.pure, Except.ok.injEq] at read
            subst read
            cases scan.message <;> exact ⟨rfl, rfl, forward⟩

/-- A step that does not finish reads the tag at a `{%` inside the text, at or after the
cursor. -/
theorem step_eq_ok {s : TagScanner} {sought : Sought} (stepped : s.step = .ok sought) :
    sought = .finished ∨ ∃ mark atTag, findAt s.chars s.cursor openMark = .ok (some mark) ∧
      s.advanceTo mark = .ok atTag ∧ atTag.readTag = .ok sought := by
  cases found : findAt s.chars s.cursor openMark with
  | error fault => simp [step, found, bind, Except.bind] at stepped
  | ok mark? =>
    cases mark? with
    | none =>
      simp only [step, found, bind, Except.bind, pure, Except.pure, Except.ok.injEq] at stepped
      exact .inl stepped.symm
    | some mark =>
      cases moved : s.advanceTo mark with
      | error fault => simp [step, found, moved, bind, Except.bind] at stepped
      | ok atTag =>
        simp only [step, found, moved, bind, Except.bind] at stepped
        exact .inr ⟨mark, atTag, rfl, moved, stepped⟩

/-- A step that passes a tag moves the cursor forward in the text. -/
theorem step_passed {s past : TagScanner} (stepped : s.step = .ok (.passed past)) :
    past.chars = s.chars ∧ past.failed = s.failed ∧ s.cursor < past.cursor ∧
      s.cursor < byteLength s.chars := by
  obtain stop | ⟨mark, atTag, found, moved, read⟩ := step_eq_ok stepped
  · cases stop
  · have bounds := findAt_bounds found
    obtain ⟨_, _, rfl⟩ := advanceTo_eq_ok moved
    obtain ⟨same, kept, forward⟩ := readTag_moves read
    rw [byteLength_openMark] at bounds
    exact ⟨same, kept, by simp at forward; omega, by omega⟩

/-- A step that yields an item leaves less to scan. -/
theorem step_yielded {s past : TagScanner} {item : Except ScanError TagMessage}
    (stepped : s.step = .ok (.yielded item past)) (running : s.failed = false) :
    past.chars = s.chars ∧ past.remaining < s.remaining := by
  obtain stop | ⟨mark, atTag, found, moved, read⟩ := step_eq_ok stepped
  · cases stop
  · have bounds := findAt_bounds found
    obtain ⟨_, _, rfl⟩ := advanceTo_eq_ok moved
    have moves := readTag_moves read
    rw [byteLength_openMark] at bounds
    cases item with
    | ok message =>
      obtain ⟨same, kept, forward⟩ := moves
      refine ⟨same, ?_⟩
      simp only [remaining, same, kept, running] at forward ⊢
      omega
    | error e =>
      subst moves
      refine ⟨rfl, ?_⟩
      simp only [remaining, running]
      simp
      omega

/-- Steps of the scan until one yields an item or finds no tag left: the item, with the scanner
after it, or nothing, with the scanner where the scan ended. -/
def seek (s : TagScanner) : Except CutFault (Option (Except ScanError TagMessage) × TagScanner) :=
  match h : s.step with
  | .error fault => .error fault
  | .ok .finished => .ok (none, s)
  | .ok (.yielded item past) => .ok (some item, past)
  | .ok (.passed past) => past.seek
termination_by byteLength s.chars - s.cursor
decreasing_by
  obtain ⟨same, -, forward, within⟩ := step_passed h
  rw [same]
  omega

/-- The scanner's next item; nothing once a malformed tag has stopped it. -/
def next (s : TagScanner) : Except CutFault (Option (Except ScanError TagMessage) × TagScanner) :=
  if s.failed then .ok (none, s) else s.seek

theorem seek_some {s s' : TagScanner} {item : Except ScanError TagMessage}
    (sought : s.seek = .ok (some item, s')) (running : s.failed = false) :
    s'.chars = s.chars ∧ s'.remaining < s.remaining := by
  fun_induction seek s with
  | case3 s item past stepped => cases sought; exact step_yielded stepped running
  | case4 s past stepped ih =>
    obtain ⟨same, kept, forward, within⟩ := step_passed stepped
    obtain ⟨same', lower⟩ := ih sought (kept.trans running)
    refine ⟨same'.trans same, Nat.lt_of_lt_of_le lower ?_⟩
    simp only [remaining, same, kept]
    omega
  | _ => cases sought

/-- Runs the scanner to its end: every item it yields, in order. -/
def run (s : TagScanner) : Except CutFault (List (Except ScanError TagMessage)) :=
  match h : s.next with
  | .error fault => .error fault
  | .ok (none, _) => .ok []
  | .ok (some item, s') => (item :: ·) <$> s'.run
termination_by s.remaining
decreasing_by
  simp only [next] at h
  split at h
  · cases h
  · exact (seek_some h (by simpa using ‹¬s.failed = true›)).2

/-- The occurrence at `path` of a message found in a template, or the text of a scan error. -/
def itemOccurrence (path : String) : Except ScanError TagMessage → Except String Occurrence
  | .ok m => .ok
      { position := positionText path m.line
        singular := m.singular
        plural := m.plural
        context := m.context }
  | .error e => .error ("Failed to parse template " ++ path ++ ": " ++ e.message)

/-- The occurrences at `path` of the messages of the template that `s` scans, in order, or the
text of the first scan error. -/
def occurrences (s : TagScanner) (path : String) :
    Except CutFault (Except String (List Occurrence)) :=
  (fun items => items.mapM (itemOccurrence path)) <$> s.run

end TagScanner

end Localize.Template
