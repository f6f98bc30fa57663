import Localize.Text.Blank
import Localize.Text.Find
import Localize.Template.Placeholder

/-! # Message tags in templates

A template marks its messages with tags between `{%` and `%}`. An inline tag, `trans` or
`translate`, carries one quoted string and an optional `context "..."` clause. A block tag,
`blocktrans` or `blocktranslate`, takes the text up to its end tag as the message; a `plural`
tag inside it separates singular from plural. Quoted strings have no escapes: they end at the
next quote of the same kind.

Scanning walks the tags in document order and stops at the first malformed one. A tag's line
is one more than the number of newlines before its `{%`; this reading takes it from the newlines
that follow the tag, so no counter is threaded through the walk. It reads the template as
characters: the scanner that runs, over byte offsets and with a count of newlines, is
`TagScanner`, and each of its calls yields the next item of this reading.

The walk and the tag readers recurse on ever shorter suffixes of the text; the lemmas
`length_scanInline` and `length_scanBlock` say that reading a tag consumes text.
-/

namespace Localize.Template

open Localize.Text

/-- A message read from a tag, before it gets a file position. -/
structure TagMessage where
  line : Nat
  singular : String
  plural : String
  context : String
deriving Repr, DecidableEq

/-- Why scanning stops. Each cause carries the line of the offending tag's `{%`. -/
inductive ScanError
  /-- A tag has no `%}`. -/
  | unterminatedTag (line : Nat)
  /-- The message string of an inline tag does not close inside the tag. -/
  | unterminatedString (line : Nat)
  /-- The string of a `context` clause does not close inside the tag. -/
  | unterminatedContext (line : Nat)
  /-- A block tag has no end tag; `closing` is the end tag's keyword. -/
  | unterminatedBlock (line : Nat) (closing : String)
deriving Repr, DecidableEq

/-- The line of the tag that stopped the scan. -/
def ScanError.line : ScanError → Nat
  | .unterminatedTag n | .unterminatedString n | .unterminatedContext n
  | .unterminatedBlock n _ => n

/-- The text that reports a scan error. -/
def ScanError.message : ScanError → String
  | .unterminatedTag n => s!"could not find end of tag starting at line {n}"
  | .unterminatedString n => s!"could not find end of string in tag at line {n}"
  | .unterminatedContext n => s!"could not find end of context string in tag at line {n}"
  | .unterminatedBlock n closing =>
    "could not find \x7b% " ++ closing ++ s!" %\x7d for block starting at line {n}"

/-- The mark that opens a tag. -/
def openMark : List Char := ['{', '%']

/-- The mark that closes a tag. -/
def closeMark : List Char := ['%', '}']

/-- Whether the text starts with a blank character. -/
def startsBlank : List Char → Bool
  | c :: _ => isBlank c
  | [] => false

/-- The text after `word`, when `word` stands at the start of `cs` as a whole word: followed
by the close mark or by a blank. -/
def wordAt (word cs : List Char) : Option (List Char) :=
  match afterPrefix? word cs with
  | some rest => if startsWith closeMark rest || startsBlank rest then some rest else none
  | none => none

theorem length_wordAt {word cs rest : List Char} (h : wordAt word cs = some rest) :
    rest.length ≤ cs.length := by
  unfold wordAt at h
  split at h
  · rename_i after hafter
    split at h
    · simp only [Option.some.injEq] at h
      subst h
      rw [afterPrefix?_eq_some hafter, List.length_append]
      omega
    · simp at h
  · simp at h

/-- The two kinds of message tag. -/
inductive Opener
  /-- A tag whose message is a quoted string inside it. -/
  | inline
  /-- A tag whose message runs up to the end tag named `closing`. -/
  | block (closing : List Char)
deriving DecidableEq

/-- The tag keywords, in the order they are tried: longer spellings first. -/
def keywords : List (List Char × Opener) :=
  [("blocktranslate".toList, .block "endblocktranslate".toList),
   ("blocktrans".toList, .block "endblocktrans".toList),
   ("translate".toList, .inline),
   ("trans".toList, .inline)]

/-- The first keyword of `table` that opens `cs`. An inline keyword needs a blank before its
argument, so it does not count when the close mark follows it directly. -/
def keywordIn : List (List Char × Opener) → List Char → Option (Opener × List Char)
  | [], _ => none
  | (word, opener) :: table, cs =>
    match wordAt word cs with
    | some rest =>
      if opener = .inline && startsWith closeMark rest then keywordIn table cs
      else some (opener, rest)
    | none => keywordIn table cs

theorem length_keywordIn {table : List (List Char × Opener)} {cs rest : List Char}
    {opener : Opener} (h : keywordIn table cs = some (opener, rest)) : rest.length ≤ cs.length := by
  induction table with
  | nil => simp [keywordIn] at h
  | cons entry table ih =>
    obtain ⟨word, o⟩ := entry
    simp only [keywordIn] at h
    split at h
    · rename_i after hafter
      split at h
      · exact ih h
      · simp only [Option.some.injEq, Prod.mk.injEq] at h
        obtain ⟨rfl, rfl⟩ := h
        exact length_wordAt hafter
    · exact ih h

/-- A quoted string at the start of a tag's remaining text. -/
inductive Quoted
  /-- The text does not start with a quote. -/
  | missing
  /-- The string does not close inside the tag. -/
  | unterminated
  /-- The string's content and the text after its closing quote. -/
  | found (value rest : List Char)

/-- Reads a quoted string at the start of `region`, the rest of a tag before its close mark:
a single or double quote, then everything up to the next quote of the same kind. -/
def quotedAt : List Char → Quoted
  | [] => .missing
  | q :: cs =>
    if q = '"' || q = '\x27' then
      match breakOn [q] cs with
      | some (value, rest) => .found value rest
      | none => .unterminated
    else .missing

/-- The keyword of a context clause. -/
def contextWord : List Char := "context".toList

/-- Looks for a `context "..."` clause in `region`, the rest of a tag before its close mark.
The keyword counts only as a whole word after a blank; `prevBlank` tells whether the character
before `region` is blank. The first such keyword decides: a string after it is the context, no
string means no context. -/
def contextClause (line : Nat) (prevBlank : Bool) : List Char → Except ScanError (Option String)
  | [] => .ok none
  | c :: cs =>
    match h : afterPrefix? contextWord (c :: cs) with
    | some rest =>
      if prevBlank && (rest.isEmpty || startsBlank rest) then
        match quotedAt (dropBlank rest) with
        | .found value _ => .ok (some (String.ofList value))
        | .unterminated => .error (.unterminatedContext line)
        | .missing => .ok none
      else contextClause line false rest
    | none => contextClause line (isBlank c) cs
termination_by cs => cs.length
decreasing_by
  · have := congrArg List.length (afterPrefix?_eq_some h)
    have hword : contextWord.length = 7 := rfl
    simp only [List.length_cons, List.length_append] at this ⊢
    omega
  · simp

/-- Reads an inline tag from `cs`, the text after its keyword, up to its close mark. A tag
whose argument is not a quoted string (a variable, a filter) gives no message. Answers the
message and the text after the tag. -/
def scanInline (line : Nat) (cs : List Char) :
    Except ScanError (Option TagMessage × List Char) :=
  match breakOn closeMark cs with
  | none => .error (.unterminatedTag line)
  | some (region, after) =>
    match quotedAt (dropBlank region) with
    | .missing => .ok (none, after)
    | .unterminated => .error (.unterminatedString line)
    | .found value rest =>
      match contextClause line false rest with
      | .error e => .error e
      | .ok context =>
        .ok (some ⟨line, String.ofList value, "", context.getD ""⟩, after)

theorem length_scanInline {line : Nat} {cs rest : List Char} {message : Option TagMessage}
    (h : scanInline line cs = .ok (message, rest)) : rest.length < cs.length := by
  unfold scanInline at h
  split at h
  · simp at h
  · rename_i region after hbreak
    have hlt := length_lt_of_breakOn (by simp [closeMark]) hbreak
    split at h
    · simp only [Except.ok.injEq, Prod.mk.injEq] at h
      rw [← h.2]; exact hlt
    · simp at h
    · split at h
      · simp at h
      · simp only [Except.ok.injEq, Prod.mk.injEq] at h
        rw [← h.2]; exact hlt

/-- The keyword of the tag that separates singular from plural in a block. -/
def pluralWord : List Char := "plural".toList

/-- Reads the body of a block tag from `cs`. `singular` is the singular once a `plural` tag has
been passed, and `seg` the body text read since the last tag that counted. Tags other than
`plural` and the end tag are part of the body. Answers the message and the text after the end
tag. -/
def blockBody (line : Nat) (closing : List Char) (context : String)
    (singular : Option (List Char)) (seg cs : List Char) :
    Except ScanError (TagMessage × List Char) :=
  match h : breakOn openMark cs with
  | none => .error (.unterminatedBlock line (String.ofList closing))
  | some (before, after) =>
    if singular.isNone && (wordAt pluralWord (dropBlank after)).isSome then
      match hclose : breakOn closeMark (dropBlank after) with
      | none => .error (.unterminatedTag line)
      | some (_, rest) => blockBody line closing context (some (seg ++ before)) [] rest
    else if (wordAt closing (dropBlank after)).isSome then
      match breakOn closeMark (dropBlank after) with
      | none => .error (.unterminatedTag line)
      | some (_, rest) =>
        let segment := seg ++ before
        let (one, many) := match singular with
          | some one => (one, segment)
          | none => (segment, [])
        .ok (⟨line, String.ofList (collapsePlaceholders one),
          String.ofList (collapsePlaceholders many), context⟩, rest)
    else blockBody line closing context singular (seg ++ before ++ openMark) after
termination_by cs.length
decreasing_by
  · have h1 := length_lt_of_breakOn (by simp [openMark]) h
    have h2 := length_lt_of_breakOn (by simp [closeMark]) hclose
    have h3 := length_dropBlank_le after
    omega
  · exact length_lt_of_breakOn (by simp [openMark]) h

theorem length_blockBody {line : Nat} {closing seg cs rest : List Char} {context : String}
    {singular : Option (List Char)} {message : TagMessage}
    (h : blockBody line closing context singular seg cs = .ok (message, rest)) :
    rest.length < cs.length := by
  fun_induction blockBody line closing context singular seg cs with
  | case1 => simp at h
  | case2 => simp at h
  | case3 singular seg cs before after hbreak hplural x rest' hclose ih =>
    have h1 := length_lt_of_breakOn (by simp [openMark]) hbreak
    have h2 := length_lt_of_breakOn (by simp [closeMark]) hclose
    have h3 := length_dropBlank_le after
    have := ih h
    omega
  | case4 => simp at h
  | case5 singular seg cs before after hbreak hplural hend x rest' hclose =>
    have h1 := length_lt_of_breakOn (by simp [openMark]) hbreak
    have h2 := length_lt_of_breakOn (by simp [closeMark]) hclose
    have h3 := length_dropBlank_le after
    simp only [Except.ok.injEq, Prod.mk.injEq] at h
    obtain ⟨-, rfl⟩ := h
    omega
  | case6 singular seg cs before after hbreak hplural hend ih =>
    have h1 := length_lt_of_breakOn (by simp [openMark]) hbreak
    have := ih h
    omega

/-- Reads a block tag from `cs`, the text after its keyword: the opening tag up to its close
mark, with an optional context clause, then the body up to the end tag `closing`. -/
def scanBlock (line : Nat) (closing cs : List Char) : Except ScanError (TagMessage × List Char) :=
  match breakOn closeMark cs with
  | none => .error (.unterminatedTag line)
  | some (region, body) =>
    match contextClause line false region with
    | .error e => .error e
    | .ok context => blockBody line closing (context.getD "") none [] body

theorem length_scanBlock {line : Nat} {closing cs rest : List Char} {message : TagMessage}
    (h : scanBlock line closing cs = .ok (message, rest)) : rest.length < cs.length := by
  unfold scanBlock at h
  split at h
  · simp at h
  · rename_i region body hbreak
    have hlt := length_lt_of_breakOn (by simp [closeMark]) hbreak
    split at h
    · simp at h
    · have := length_blockBody h
      omega

/-- Scans `cs`, a suffix of a template with `total` newlines, for message tags. Answers the
messages in document order and the error that stopped the scan, if any. -/
def scanFrom (total : Nat) (cs : List Char) : List TagMessage × Option ScanError :=
  match h : breakOn openMark cs with
  | none => ([], none)
  | some (_, after) =>
    let line := total - after.count '\n' + 1
    match hk : keywordIn keywords (dropBlank after) with
    | none => scanFrom total after
    | some (.inline, rest) =>
      match hs : scanInline line rest with
      | .error e => ([], some e)
      | .ok (found, rest') =>
        let (messages, stop) := scanFrom total rest'
        (found.toList ++ messages, stop)
    | some (.block closing, rest) =>
      match hs : scanBlock line closing rest with
      | .error e => ([], some e)
      | .ok (found, rest') =>
        let (messages, stop) := scanFrom total rest'
        (found :: messages, stop)
termination_by cs.length
decreasing_by
  · exact length_lt_of_breakOn (by simp [openMark]) h
  · have h1 := length_lt_of_breakOn (by simp [openMark]) h
    have h2 := length_keywordIn hk
    have h3 := length_dropBlank_le after
    have h4 := length_scanInline hs
    omega
  · have h1 := length_lt_of_breakOn (by simp [openMark]) h
    have h2 := length_keywordIn hk
    have h3 := length_dropBlank_le after
    have h4 := length_scanBlock hs
    omega

/-- The message tags of a template, in document order, and the error that stopped the scan at
the first malformed tag, if any. -/
def scan (text : String) : List TagMessage × Option ScanError :=
  scanFrom (text.toList.count '\n') text.toList

end Localize.Template
