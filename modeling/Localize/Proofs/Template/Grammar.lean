import Localize.Template.Tag
import Localize.Proofs.Text

/-! # The scanner accepts its grammar

A well-formed template (`TaggedText`) is text with no `{%` followed by tags, each followed by
such text. An inline tag is `{% W* k W+ q s q R %}` with `k` one of `trans` and
`translate`, `q` a quote that `s` does not hold, and `R` either free of `context` or a
context clause `W+ context W+ q x q` behind text free of `context` (`TagText`). A block tag is
`{% W* b P %}`, the singular, an optional `{% W* plural (W+ S)? %}` with the plural, and
`{% W* endb (W+ S)? %}`, where `P` is empty or starts blank. No part of a tag holds the
close mark, and the texts of a block hold no `{%`. `W` is a blank: Unicode white space.

`scan_render` says that the scan of such a template yields the message of every tag, in order,
each at one more than the number of newlines before the tag, and no error. `scan_greetingPage`
applies it to a page with an inline tag that has a context clause and a block with a plural.

The proof reads the template left to right. `NoMatchIn` says where a marker cannot start,
and `breakOn_marker` that the first marker after such text is where the text splits. The
scanner's functions recurse on shorter suffixes, so each branch gets an equation
(`scanFrom_of_inline`, `blockBody_of_end`, ...); each kind of tag then has a lemma for its
own text, and `Tag.scanFrom_tag` is one step of the scan, which `scanFrom_renderTags` repeats.
-/

namespace Localize.Template

open Localize.Text

/-! ## Where a marker first occurs -/

/-- No occurrence of `pat` starts inside `pre`, in the text `pre ++ rest`. -/
def NoMatchIn (pat pre rest : List Char) : Prop :=
  ∀ i < pre.length, afterPrefix? pat ((pre ++ rest).drop i) = none

theorem afterPrefix?_eq_none_of_head {p c : Char} {ps cs : List Char} (differ : p ≠ c) :
    afterPrefix? (p :: ps) (c :: cs) = none := by
  simp [afterPrefix?, differ]

theorem NoMatchIn.append {pat first second rest : List Char}
    (inFirst : NoMatchIn pat first (second ++ rest)) (inSecond : NoMatchIn pat second rest) :
    NoMatchIn pat (first ++ second) rest := by
  intro i below
  rw [List.length_append] at below
  rw [List.append_assoc]
  by_cases early : i < first.length
  · exact inFirst i early
  · obtain ⟨k, rfl⟩ : ∃ k, i = first.length + k := ⟨i - first.length, by omega⟩
    have gone : first.drop (first.length + k) = [] := List.drop_eq_nil_of_le (by omega)
    simpa [List.drop_append, gone] using inSecond k (by omega)

/-- An occurrence of `pat` that starts inside `pre` either lies inside it or runs from a
nonempty end of `pre` into a nonempty start of `rest`. -/
theorem occurrence_cases {pat pre rest : List Char} {i : Nat} (inside : i < pre.length)
    {after : List Char} (found : afterPrefix? pat ((pre ++ rest).drop i) = some after) :
    pat <:+: pre ∨ ∃ front back, front ≠ [] ∧ back ≠ [] ∧ pat = front ++ back ∧
      front <:+ pre ∧ back <+: rest := by
  rw [List.drop_append_of_le_length (by omega)] at found
  have split := afterPrefix?_eq_some found
  rcases List.append_eq_append_iff.mp split with ⟨back, whole, restIs⟩ | ⟨extra, preIs, -⟩
  · cases back with
    | nil =>
      left
      exact ⟨pre.take i, [], by simp [whole]⟩
    | cons x xs =>
      right
      refine ⟨pre.drop i, x :: xs, by simp; omega, by simp, whole, List.drop_suffix i pre,
        ⟨after, restIs.symm⟩⟩
  · left
    exact ⟨pre.take i, extra, by rw [List.append_assoc, ← preIs, List.take_append_drop]⟩

/-- No occurrence can start inside a text that lacks the marker's first character. -/
theorem noMatchIn_of_not_mem {p : Char} {ps pre rest : List Char} (absent : p ∉ pre) :
    NoMatchIn (p :: ps) pre rest := by
  intro i inside
  cases found : afterPrefix? (p :: ps) ((pre ++ rest).drop i) with
  | none => rfl
  | some after =>
    rcases occurrence_cases inside found with within | ⟨front, back, filled, -, whole, ends, -⟩
    · exact absurd (within.subset List.mem_cons_self) absent
    · obtain ⟨y, ys, rfl⟩ := List.exists_cons_of_ne_nil filled
      obtain ⟨rfl, -⟩ : p = y ∧ ps = ys ++ back := by simpa using whole
      exact absurd (ends.subset List.mem_cons_self) absent

/-- A marker absent from `pre` starts inside it only when it runs on into `rest` with a
character of its own. -/
theorem noMatchIn_of_head {pat pre rest : List Char} (absent : ¬ pat <:+: pre)
    (head : ∀ c ∈ rest.head?, c ∉ pat) : NoMatchIn pat pre rest := by
  intro i inside
  cases found : afterPrefix? pat ((pre ++ rest).drop i) with
  | none => rfl
  | some after =>
    rcases occurrence_cases inside found with within | ⟨front, back, -, nonempty, whole, -, start⟩
    · exact absurd within absent
    · obtain ⟨x, xs, rfl⟩ := List.exists_cons_of_ne_nil nonempty
      obtain ⟨tail, rfl⟩ := start
      exact absurd (by rw [whole]; simp) (head x (by simp))

/-- A two-character marker absent from `pre` starts inside it only across the boundary. -/
theorem noMatchIn_pair {a b : Char} {pre rest : List Char} (absent : ¬ [a, b] <:+: pre)
    (boundary : pre.getLast? = some a → rest.head? ≠ some b) : NoMatchIn [a, b] pre rest := by
  intro i inside
  cases found : afterPrefix? [a, b] ((pre ++ rest).drop i) with
  | none => rfl
  | some after =>
    rcases occurrence_cases inside found with within | ⟨front, back, filled, nonempty, whole, ends, start⟩
    · exact absurd within absent
    · obtain ⟨y, ys, rfl⟩ := List.exists_cons_of_ne_nil filled
      cases ys with
      | nil =>
        obtain ⟨rfl, rfl⟩ : a = y ∧ [b] = back := by simpa using whole
        obtain ⟨init, rfl⟩ := ends
        obtain ⟨tail, rfl⟩ := start
        exact absurd rfl (boundary (by simp))
      | cons z zs =>
        obtain ⟨-, -, stop⟩ : a = y ∧ b = z ∧ zs ++ back = [] := by simpa using whole
        exact absurd (List.append_eq_nil_iff.mp stop).2 nonempty

theorem NoMatchIn.tail {pat rest : List Char} {c : Char} {pre : List Char}
    (free : NoMatchIn pat (c :: pre) rest) : NoMatchIn pat pre rest :=
  fun i inside => by simpa using free (i + 1) (by simp; omega)

theorem breakOn_append {pat pre rest : List Char} (free : NoMatchIn pat pre rest) :
    breakOn pat (pre ++ rest) = (breakOn pat rest).map fun (b, a) => (pre ++ b, a) := by
  induction pre with
  | nil => simp
  | cons c pre ih =>
    have here : afterPrefix? pat (c :: (pre ++ rest)) = none := free 0 (by simp)
    simp only [List.cons_append, breakOn, here, ih free.tail, Option.map_map]
    rfl

/-- A marker found where no earlier occurrence starts splits the text there. -/
theorem breakOn_marker {pat pre after : List Char} (nonempty : pat ≠ [])
    (free : NoMatchIn pat pre (pat ++ after)) : breakOn pat (pre ++ (pat ++ after)) = some (pre, after) := by
  obtain ⟨p, ps, rfl⟩ := List.exists_cons_of_ne_nil nonempty
  have found : afterPrefix? (p :: ps) (p :: (ps ++ after)) = some after :=
    afterPrefix?_append (p :: ps) after
  rw [breakOn_append free]
  simp [breakOn, found]

theorem breakOn_eq_none {pat cs : List Char} (absent : ¬ pat <:+: cs) : breakOn pat cs = none := by
  cases found : breakOn pat cs with
  | none => rfl
  | some parts =>
    obtain ⟨before, after⟩ := parts
    exact absurd ⟨before, after, (breakOn_eq_some found).symm⟩ absent

/-! ## Quoted strings and context clauses -/

theorem contextWord_eq : contextWord = 'c' :: "ontext".toList := rfl

/-- A single or a double quote. -/
def IsQuote (q : Char) : Prop := q = '"' ∨ q = '\x27'

theorem quotedAt_found {q : Char} (quote : IsQuote q) {value : List Char} (closed : q ∉ value)
    (after : List Char) : quotedAt (q :: (value ++ q :: after)) = .found value after := by
  have split : breakOn [q] (value ++ ([q] ++ after)) = some (value, after) :=
    breakOn_marker (by simp) (noMatchIn_of_not_mem closed)
  have opens : (q = '"' || q = '\x27') = true := by
    rcases quote with rfl | rfl <;> rfl
  simp only [quotedAt, opens, ↓reduceIte]
  rw [show value ++ q :: after = value ++ ([q] ++ after) from rfl, split]

/-- Whether the last character of `pre` is blank, or `b` when `pre` is empty. -/
def lastBlank (b : Bool) (pre : List Char) : Bool := (pre.getLast?.map isBlank).getD b

/-- Text where no context keyword starts is read through, remembering only whether its last
character was blank. -/
theorem contextClause_append {line : Nat} {b : Bool} {pre rest : List Char}
    (free : NoMatchIn contextWord pre rest) :
    contextClause line b (pre ++ rest) = contextClause line (lastBlank b pre) rest := by
  induction pre generalizing b with
  | nil => rfl
  | cons c pre ih =>
    have here : afterPrefix? contextWord (c :: (pre ++ rest)) = none := free 0 (by simp)
    rw [List.cons_append, contextClause]
    split
    next after found => exact absurd (here ▸ found) (by simp)
    next =>
      rw [ih free.tail]
      cases pre with
      | nil => rfl
      | cons d pre =>
        obtain ⟨last, found⟩ : ∃ last, (d :: pre).getLast? = some last :=
          ⟨_, List.getLast?_eq_some_getLast (by simp)⟩
        simp [lastBlank, List.getLast?_cons_cons, found]

theorem contextClause_of_not_infix {line : Nat} {b : Bool} {text : List Char}
    (absent : ¬ contextWord <:+: text) : contextClause line b text = .ok none := by
  have read := @contextClause_append line b text [] (noMatchIn_of_head absent (by simp))
  rw [List.append_nil] at read
  rw [read, contextClause]

theorem IsQuote.not_blank {q : Char} (quote : IsQuote q) : isBlank q = false := by
  rcases quote with rfl | rfl <;> decide

/-- Blank text, possibly empty. -/
def Blank (w : List Char) : Prop := ∀ c ∈ w, isBlank c = true

theorem dropBlank_quote {w : List Char} (blank : Blank w) {q : Char} (quote : IsQuote q)
    (rest : List Char) : dropBlank (w ++ q :: rest) = q :: rest := by
  rw [dropBlank_blank_append blank, dropBlank_cons_of_not_blank quote.not_blank]

/-- After the keyword, behind a blank, a clause takes the quoted string that follows its
blanks. -/
theorem contextClause_keyword {line : Nat} {space : List Char} (spaced : space ≠ [])
    (blank : Blank space) {q : Char} (quote : IsQuote q) {context : List Char}
    (closed : q ∉ context) (after : List Char) :
    contextClause line true (contextWord ++ (space ++ q :: (context ++ q :: after))) =
      .ok (some (String.ofList context)) := by
  obtain ⟨s, ss, rfl⟩ := List.exists_cons_of_ne_nil spaced
  have spaceFirst : isBlank s = true := blank s List.mem_cons_self
  set rest := s :: ss ++ q :: (context ++ q :: after) with restIs
  have keyword : afterPrefix? contextWord (contextWord ++ rest) = some rest :=
    afterPrefix?_append contextWord rest
  rw [show contextWord ++ rest = 'c' :: ("ontext".toList ++ rest) from rfl, contextClause]
  split
  next found value =>
    rw [show 'c' :: ("ontext".toList ++ rest) = contextWord ++ rest from rfl, keyword] at value
    cases value
    have starts : startsBlank rest = true := by simp [restIs, startsBlank, spaceFirst]
    have dropped : dropBlank rest = q :: (context ++ q :: after) := dropBlank_quote blank quote _
    simp only [starts, Bool.or_true, Bool.and_self, ↓reduceIte, dropped, quotedAt_found quote closed]
  next absent =>
    exact absurd keyword (by rw [show contextWord ++ rest = 'c' :: ("ontext".toList ++ rest) from rfl, absent]; simp)

/-! ## The grammar of message tags -/

theorem noMatchIn_close {text rest : List Char} (unclosed : ¬ closeMark <:+: text)
    (next : ∀ c ∈ rest.head?, c ≠ '}') : NoMatchIn closeMark text rest :=
  noMatchIn_pair unclosed fun _ starts => next _ (by rw [starts]; rfl) rfl

theorem noMatchIn_close_of_blank {w rest : List Char} (blank : Blank w) :
    NoMatchIn closeMark w rest :=
  noMatchIn_of_not_mem fun member => absurd (blank _ member) (by decide)

theorem noMatchIn_close_of_quote {q : Char} (quote : IsQuote q) (rest : List Char) :
    NoMatchIn closeMark [q] rest :=
  noMatchIn_of_not_mem (by rcases quote with rfl | rfl <;> decide)

theorem head_blank_append {w : List Char} (spaced : w ≠ []) (blank : Blank w) (rest : List Char) :
    ∀ c ∈ (w ++ rest).head?, isBlank c = true := by
  obtain ⟨s, ss, rfl⟩ := List.exists_cons_of_ne_nil spaced
  simpa using blank s List.mem_cons_self

theorem ne_of_blank {c d : Char} (blank : isBlank c = true) (solid : isBlank d = false) :
    c ≠ d := by
  rintro rfl
  simp [solid] at blank

/-- A context clause `W+ context W+ q x q`, after text free of `context` and followed by any
text; no part holds the close mark. -/
structure ContextClause where
  before : List Char
  gap : List Char
  space : List Char
  quote : Char
  context : List Char
  after : List Char
  before_free : ¬ contextWord <:+: before
  gap_spaced : gap ≠ []
  gap_blank : Blank gap
  space_spaced : space ≠ []
  space_blank : Blank space
  quote_mark : IsQuote quote
  context_closed : quote ∉ context
  before_unclosed : ¬ closeMark <:+: before
  context_unclosed : ¬ closeMark <:+: context
  after_unclosed : ¬ closeMark <:+: after

namespace ContextClause

variable (c : ContextClause)

/-- The text of the clause. -/
def render : List Char :=
  c.before ++ (c.gap ++ (contextWord ++ (c.space ++ c.quote :: (c.context ++ c.quote :: c.after))))

theorem contextClause_render (line : Nat) (b : Bool) :
    contextClause line b c.render = .ok (some (String.ofList c.context)) := by
  have word : ∀ d ∈ contextWord, isBlank d = false := by
    simpa using (by decide : contextWord.all (fun d => !isBlank d) = true)
  have lead : NoMatchIn contextWord (c.before ++ c.gap)
      (contextWord ++ (c.space ++ c.quote :: (c.context ++ c.quote :: c.after))) := by
    refine NoMatchIn.append (noMatchIn_of_head c.before_free fun d first => ?_) ?_
    · have blank := head_blank_append c.gap_spaced c.gap_blank _ d first
      exact fun inWord => by simp [word d inWord] at blank
    · rw [contextWord_eq]
      exact noMatchIn_of_not_mem fun member => absurd (c.gap_blank _ member) (by decide)
  have last : lastBlank b (c.before ++ c.gap) = true := by
    obtain ⟨init, x, split⟩ := List.eq_nil_or_concat c.gap |>.resolve_left c.gap_spaced
    simp [lastBlank, split, c.gap_blank x (by simp [split])]
  rw [render, ← List.append_assoc c.before, contextClause_append lead, last,
    contextClause_keyword c.space_spaced c.space_blank c.quote_mark c.context_closed]

theorem noMatchIn_render {rest : List Char} (next : ∀ d ∈ rest.head?, d ≠ '}') :
    NoMatchIn closeMark c.render rest := by
  have quoted : NoMatchIn closeMark (c.quote :: (c.context ++ c.quote :: c.after)) rest := by
    show NoMatchIn closeMark ([c.quote] ++ (c.context ++ ([c.quote] ++ c.after))) rest
    refine NoMatchIn.append (noMatchIn_close_of_quote c.quote_mark _)
      (NoMatchIn.append (noMatchIn_close c.context_unclosed ?_)
        (NoMatchIn.append (noMatchIn_close_of_quote c.quote_mark _) (noMatchIn_close c.after_unclosed next)))
    rintro d first
    obtain rfl : c.quote = d := by simpa using first
    rcases c.quote_mark with same | same <;> rw [same] <;> decide
  have word : NoMatchIn closeMark contextWord
      (c.space ++ c.quote :: (c.context ++ c.quote :: c.after) ++ rest) := by
    rw [contextWord_eq]
    exact noMatchIn_of_not_mem (by decide)
  refine NoMatchIn.append (noMatchIn_close c.before_unclosed fun d first => ?_)
    (NoMatchIn.append (noMatchIn_close_of_blank c.gap_blank)
      (NoMatchIn.append word (NoMatchIn.append (noMatchIn_close_of_blank c.space_blank) quoted)))
  rw [List.append_assoc] at first
  exact ne_of_blank (head_blank_append c.gap_spaced c.gap_blank _ d first) (by decide)

end ContextClause

/-- What an inline tag holds after its message string, or a block tag after its keyword, up to
the close mark: either text with no `context` in it, or a context clause. Neither holds the
close mark. -/
inductive TagText
  | plain (text : List Char) (unclosed : ¬ closeMark <:+: text) (free : ¬ contextWord <:+: text)
  | clause (clause : ContextClause)

namespace TagText

/-- The text itself. -/
def render : TagText → List Char
  | plain text _ _ => text
  | clause c => c.render

/-- The context the text gives its message. -/
def context : TagText → Option String
  | plain .. => none
  | clause c => some (String.ofList c.context)

theorem contextClause_render (t : TagText) (line : Nat) (b : Bool) :
    contextClause line b t.render = .ok t.context := by
  cases t with
  | plain text _ free => exact contextClause_of_not_infix free
  | clause c => exact c.contextClause_render line b

theorem noMatchIn_render (t : TagText) {rest : List Char} (next : ∀ d ∈ rest.head?, d ≠ '}') :
    NoMatchIn closeMark t.render rest := by
  cases t with
  | plain text unclosed _ => exact noMatchIn_close unclosed next
  | clause c => exact c.noMatchIn_render next

end TagText

/-! ## Keywords -/

theorem afterPrefix?_append_left (w p r : List Char) :
    afterPrefix? (w ++ p) (w ++ r) = afterPrefix? p r := by
  induction w with
  | nil => rfl
  | cons x w ih => simp [afterPrefix?, ih]

/-- Two texts that agree up to a differing character do not start one with the other. -/
theorem afterPrefix?_mismatch (w : List Char) {p c : Char} (differ : p ≠ c) (ps cs : List Char) :
    afterPrefix? (w ++ p :: ps) (w ++ c :: cs) = none := by
  rw [afterPrefix?_append_left, afterPrefix?_eq_none_of_head differ]

theorem wordAt_of_mismatch {word cs : List Char} (absent : afterPrefix? word cs = none) :
    wordAt word cs = none := by
  simp [wordAt, absent]

theorem wordAt_append (word rest : List Char)
    (opens : (startsWith closeMark rest || startsBlank rest) = true) :
    wordAt word (word ++ rest) = some rest := by
  simp [wordAt, opens]

theorem keywordIn_cons_of_none {word cs : List Char} {o : Opener} {table : List (List Char × Opener)}
    (absent : wordAt word cs = none) : keywordIn ((word, o) :: table) cs = keywordIn table cs := by
  simp [keywordIn, absent]

theorem keywordIn_cons_of_some {word cs rest : List Char} {o : Opener}
    {table : List (List Char × Opener)} (found : wordAt word cs = some rest)
    (counts : (o = .inline && startsWith closeMark rest) = false) :
    keywordIn ((word, o) :: table) cs = some (o, rest) := by
  simp [keywordIn, found, counts]

/-- The keywords of inline tags. -/
inductive InlineKeyword
  | trans
  | translate

/-- The keyword's text. -/
def InlineKeyword.word : InlineKeyword → List Char
  | .trans => "trans".toList
  | .translate => "translate".toList

theorem wordAt_of_head_ne {word cs : List Char} {p c : Char} (first : word.head? = some p)
    (start : cs.head? = some c) (differ : p ≠ c) : wordAt word cs = none := by
  obtain ⟨ps, rfl⟩ : ∃ ps, word = p :: ps := by
    cases word <;> simp_all
  obtain ⟨rest, rfl⟩ : ∃ rest, cs = c :: rest := by
    cases cs <;> simp_all
  exact wordAt_of_mismatch (afterPrefix?_eq_none_of_head differ)

theorem head?_literal_append {word : List Char} {p : Char} (first : word.head? = some p)
    (rest : List Char) : (word ++ rest).head? = some p := by
  cases word <;> simp_all

/-- An inline keyword followed by a blank opens an inline tag. -/
theorem keywordIn_inline (k : InlineKeyword) {c : Char} (blank : isBlank c = true)
    (cs : List Char) : keywordIn keywords (k.word ++ c :: cs) = some (.inline, c :: cs) := by
  have opens : (startsWith closeMark (c :: cs) || startsBlank (c :: cs)) = true := by
    simp [startsBlank, blank]
  have counts : (Opener.inline = .inline && startsWith closeMark (c :: cs)) = false := by
    have : c ≠ '%' := ne_of_blank blank (by decide)
    simp [startsWith, closeMark, afterPrefix?, Ne.symm this]
  have letter : 'l' ≠ c := Ne.symm (ne_of_blank blank (by decide))
  -- the block keywords differ from both inline ones at the first character
  have block : (k.word ++ c :: cs).head? = some 't' := by
    cases k <;> exact head?_literal_append (by decide +kernel) _
  have first : "blocktranslate".toList.head? = some 'b' := by decide +kernel
  have first' : "blocktrans".toList.head? = some 'b' := by decide +kernel
  have skipBlocks : keywordIn keywords (k.word ++ c :: cs) =
      keywordIn [("translate".toList, .inline), ("trans".toList, .inline)] (k.word ++ c :: cs) :=
    (keywordIn_cons_of_none (wordAt_of_head_ne first block (by decide))).trans
      (keywordIn_cons_of_none (wordAt_of_head_ne first' block (by decide)))
  refine skipBlocks.trans ?_
  cases k with
  | trans =>
    -- `translate` differs from `trans` at its sixth character
    have split : "translate".toList = "trans".toList ++ 'l' :: "ate".toList := by decide +kernel
    have longer : wordAt "translate".toList ("trans".toList ++ c :: cs) = none := by
      rw [split]
      exact wordAt_of_mismatch (afterPrefix?_mismatch _ letter _ _)
    exact (keywordIn_cons_of_none longer).trans
      (keywordIn_cons_of_some (wordAt_append _ _ opens) counts)
  | translate => exact keywordIn_cons_of_some (wordAt_append _ _ opens) counts

/-- An inline tag `{% W* k W+ q s q R %}`. -/
structure InlineTag where
  lead : List Char
  keyword : InlineKeyword
  gap : List Char
  quote : Char
  message : List Char
  text : TagText
  lead_blank : Blank lead
  gap_spaced : gap ≠ []
  gap_blank : Blank gap
  quote_mark : IsQuote quote
  message_closed : quote ∉ message
  message_unclosed : ¬ closeMark <:+: message

namespace InlineTag

variable (t : InlineTag)

/-- The tag's text between its keyword and its close mark. -/
def region : List Char := t.gap ++ t.quote :: (t.message ++ t.quote :: t.text.render)

/-- The text of the tag. -/
def render : List Char := openMark ++ (t.lead ++ (t.keyword.word ++ (t.region ++ closeMark)))

/-- The message of the tag, at `line`. -/
def toMessage (line : Nat) : TagMessage :=
  ⟨line, String.ofList t.message, "", t.text.context.getD ""⟩

theorem scanInline_region (line : Nat) (after : List Char) :
    scanInline line (t.region ++ (closeMark ++ after)) = .ok (some (t.toMessage line), after) := by
  have quoted : NoMatchIn closeMark ([t.quote] ++ (t.message ++ ([t.quote] ++ t.text.render)))
      (closeMark ++ after) := by
    refine NoMatchIn.append (noMatchIn_close_of_quote t.quote_mark _)
      (NoMatchIn.append (noMatchIn_close t.message_unclosed ?_)
        (NoMatchIn.append (noMatchIn_close_of_quote t.quote_mark _)
          (t.text.noMatchIn_render (by simp [closeMark]))))
    rintro d first
    obtain rfl : t.quote = d := by simpa using first
    rcases t.quote_mark with same | same <;> rw [same] <;> decide
  have split : breakOn closeMark (t.region ++ (closeMark ++ after)) = some (t.region, after) :=
    breakOn_marker (by simp [closeMark])
      (NoMatchIn.append (noMatchIn_close_of_blank t.gap_blank) quoted)
  rw [scanInline, split]
  simp only [region, dropBlank_quote t.gap_blank t.quote_mark,
    quotedAt_found t.quote_mark t.message_closed, t.text.contextClause_render, toMessage]

end InlineTag

/-! ## Block tags -/

/-- The keywords of block tags. -/
inductive BlockKeyword
  | blocktrans
  | blocktranslate

/-- The keyword's text. -/
def BlockKeyword.word : BlockKeyword → List Char
  | .blocktrans => "blocktrans".toList
  | .blocktranslate => "blocktranslate".toList

/-- The keyword of the block's end tag. -/
def BlockKeyword.closing : BlockKeyword → List Char
  | .blocktrans => "endblocktrans".toList
  | .blocktranslate => "endblocktranslate".toList

/-- A block keyword followed by a blank or by the close mark opens a block tag. -/
theorem keywordIn_block (k : BlockKeyword) {c : Char} {cs : List Char}
    (opens : (startsWith closeMark (c :: cs) || startsBlank (c :: cs)) = true) :
    keywordIn keywords (k.word ++ c :: cs) = some (.block k.closing, c :: cs) := by
  have counts : ∀ closing, (Opener.block closing = .inline && startsWith closeMark (c :: cs)) = false :=
    fun closing => by simp
  cases k with
  | blocktrans =>
    -- `blocktranslate` differs from `blocktrans` at its eleventh character
    have letter : 'l' ≠ c := by
      rintro rfl
      simp [startsWith, closeMark, afterPrefix?, startsBlank] at opens
      exact absurd opens (by decide)
    have split : "blocktranslate".toList = "blocktrans".toList ++ 'l' :: "ate".toList := by
      decide +kernel
    have longer : wordAt "blocktranslate".toList ("blocktrans".toList ++ c :: cs) = none := by
      rw [split]
      exact wordAt_of_mismatch (afterPrefix?_mismatch _ letter _ _)
    exact (keywordIn_cons_of_none longer).trans
      (keywordIn_cons_of_some (wordAt_append _ _ opens) (counts _))
  | blocktranslate => exact keywordIn_cons_of_some (wordAt_append _ _ opens) (counts _)

theorem blockBody_of_plural {line : Nat} {closing : List Char} {context : String}
    {seg cs before after skipped rest : List Char}
    (found : breakOn openMark cs = some (before, after))
    (plural : (wordAt pluralWord (dropBlank after)).isSome = true)
    (closed : breakOn closeMark (dropBlank after) = some (skipped, rest)) :
    blockBody line closing context none seg cs =
      blockBody line closing context (some (seg ++ before)) [] rest := by
  rw [blockBody]
  split
  next absent => simp [found] at absent
  next before' after' found' =>
    rw [found] at found'
    obtain ⟨rfl, rfl⟩ := Prod.mk.inj (Option.some.inj found')
    simp only [Option.isNone_none, plural, Bool.and_self, ↓reduceIte]
    split
    next absent => simp [closed] at absent
    next skipped' rest' closed' =>
      rw [closed] at closed'
      obtain ⟨rfl, rfl⟩ := Prod.mk.inj (Option.some.inj closed')
      rfl

theorem blockBody_of_end {line : Nat} {closing : List Char} {context : String}
    {singular : Option (List Char)} {seg cs before after skipped rest : List Char}
    (found : breakOn openMark cs = some (before, after))
    (notPlural : (singular.isNone && (wordAt pluralWord (dropBlank after)).isSome) = false)
    (ends : (wordAt closing (dropBlank after)).isSome = true)
    (closed : breakOn closeMark (dropBlank after) = some (skipped, rest)) :
    blockBody line closing context singular seg cs =
      .ok (⟨line, String.ofList (collapsePlaceholders (singular.getD (seg ++ before))),
        String.ofList (collapsePlaceholders (singular.elim [] fun _ => seg ++ before)), context⟩,
        rest) := by
  rw [blockBody]
  split
  next absent => simp [found] at absent
  next before' after' found' =>
    rw [found] at found'
    obtain ⟨rfl, rfl⟩ := Prod.mk.inj (Option.some.inj found')
    simp only [notPlural, Bool.false_eq_true, ↓reduceIte, ends]
    split
    next absent => simp [closed] at absent
    next skipped' rest' closed' =>
      rw [closed] at closed'
      obtain ⟨rfl, rfl⟩ := Prod.mk.inj (Option.some.inj closed')
      cases singular <;> rfl

theorem breakOn_open {pre rest : List Char} (plain : ¬ openMark <:+: pre) :
    breakOn openMark (pre ++ (openMark ++ rest)) = some (pre, rest) :=
  breakOn_marker (by simp [openMark]) (noMatchIn_pair plain fun _ => by simp [openMark])

theorem breakOn_close {pre rest : List Char} (free : NoMatchIn closeMark pre (closeMark ++ rest)) :
    breakOn closeMark (pre ++ (closeMark ++ rest)) = some (pre, rest) :=
  breakOn_marker (by simp [closeMark]) free

/-- What may follow a tag's keyword up to the close mark: nothing, or text that starts blank;
either way the keyword stands as a whole word. -/
theorem opens_of_spaced {text : List Char} (spaced : ∀ c ∈ text.head?, isBlank c = true)
    (rest : List Char) :
    ∃ c cs, text ++ (closeMark ++ rest) = c :: cs ∧
      (startsWith closeMark (c :: cs) || startsBlank (c :: cs)) = true := by
  cases text with
  | nil => exact ⟨'%', '}' :: rest, rfl, by simp [startsWith, closeMark, afterPrefix?]⟩
  | cons c cs => exact ⟨c, cs ++ (closeMark ++ rest), rfl, by simp [startsBlank, spaced c (by simp)]⟩

/-- A `plural` tag `{% W* plural (W+ S)? %}` and the plural text after it. -/
structure PluralTag where
  lead : List Char
  text : List Char
  body : List Char
  lead_blank : Blank lead
  text_spaced : ∀ c ∈ text.head?, isBlank c = true
  text_unclosed : ¬ closeMark <:+: text
  body_plain : ¬ openMark <:+: body

/-- The text of a `plural` tag and of the plural after it. -/
def PluralTag.render (p : PluralTag) : List Char :=
  openMark ++ (p.lead ++ (pluralWord ++ (p.text ++ (closeMark ++ p.body))))

/-- Passing a `plural` tag ends the singular and starts the plural. -/
theorem blockBody_plural (p : PluralTag) {line : Nat} {closing : List Char} {context : String}
    {singular : List Char} (plain : ¬ openMark <:+: singular) (tail : List Char) :
    blockBody line closing context none [] (singular ++ (p.render ++ tail)) =
      blockBody line closing context (some singular) [] (p.body ++ tail) := by
  have word : pluralWord = 'p' :: "lural".toList := rfl
  obtain ⟨c, cs, after, opens⟩ := opens_of_spaced p.text_spaced (p.body ++ tail)
  have dropped : dropBlank (p.lead ++ (pluralWord ++ (p.text ++ (closeMark ++ (p.body ++ tail))))) =
      pluralWord ++ (p.text ++ (closeMark ++ (p.body ++ tail))) := by
    rw [dropBlank_blank_append p.lead_blank, word, List.cons_append,
      dropBlank_cons_of_not_blank (by decide)]
  have free : NoMatchIn closeMark (pluralWord ++ p.text) (closeMark ++ (p.body ++ tail)) :=
    NoMatchIn.append (by rw [word]; exact noMatchIn_of_not_mem (by decide))
      (noMatchIn_close p.text_unclosed (by simp [closeMark]))
  have plural : (wordAt pluralWord
      (dropBlank (p.lead ++ (pluralWord ++ (p.text ++ (closeMark ++ (p.body ++ tail))))))).isSome := by
    rw [dropped, after, wordAt_append _ _ opens]
    rfl
  have closed : breakOn closeMark
      (dropBlank (p.lead ++ (pluralWord ++ (p.text ++ (closeMark ++ (p.body ++ tail)))))) =
      some (pluralWord ++ p.text, p.body ++ tail) := by
    rw [dropped, ← List.append_assoc]
    exact breakOn_close free
  simp only [PluralTag.render, List.append_assoc]
  rw [blockBody_of_plural (breakOn_open plain) plural closed, List.nil_append]

/-- A block tag: `{% W* b P %}`, the singular text, an optional `plural` tag with the
plural text, and the end tag `{% W* endb (W+ S)? %}`. -/
structure BlockTag where
  lead : List Char
  keyword : BlockKeyword
  text : TagText
  singular : List Char
  plural : Option PluralTag
  endLead : List Char
  endText : List Char
  lead_blank : Blank lead
  text_spaced : ∀ c ∈ text.render.head?, isBlank c = true
  singular_plain : ¬ openMark <:+: singular
  endLead_blank : Blank endLead
  endText_spaced : ∀ c ∈ endText.head?, isBlank c = true
  endText_unclosed : ¬ closeMark <:+: endText

namespace BlockTag

variable (t : BlockTag)

/-- The end tag. -/
def endTag : List Char :=
  openMark ++ (t.endLead ++ (t.keyword.closing ++ (t.endText ++ closeMark)))

/-- The text after the opening tag: the singular, the `plural` tag if any, the end tag. -/
def body : List Char := t.singular ++ ((t.plural.map PluralTag.render).getD [] ++ t.endTag)

/-- The text of the tag. -/
def render : List Char :=
  openMark ++ (t.lead ++ (t.keyword.word ++ (t.text.render ++ (closeMark ++ t.body))))

/-- The message of the tag, at `line`. -/
def toMessage (line : Nat) : TagMessage :=
  ⟨line, String.ofList (collapsePlaceholders t.singular),
    String.ofList (collapsePlaceholders ((t.plural.map PluralTag.body).getD [])),
    t.text.context.getD ""⟩

/-- The end tag closes the block; `seg` and `pre` make the text read since the last tag that
counted. -/
theorem blockBody_endTag {line : Nat} {context : String} {singular : Option (List Char)}
    {pre : List Char} (plain : ¬ openMark <:+: pre) (seg rest : List Char) :
    blockBody line t.keyword.closing context singular seg (pre ++ (t.endTag ++ rest)) =
      .ok (⟨line, String.ofList (collapsePlaceholders (singular.getD (seg ++ pre))),
        String.ofList (collapsePlaceholders (singular.elim [] fun _ => seg ++ pre)), context⟩,
        rest) := by
  have first : t.keyword.closing.head? = some 'e' := by
    cases t.keyword <;> decide +kernel
  have solid : '%' ∉ t.keyword.closing := by
    cases t.keyword <;> decide +kernel
  obtain ⟨c, cs, after, opens⟩ := opens_of_spaced t.endText_spaced rest
  have dropped : dropBlank (t.endLead ++ (t.keyword.closing ++ (t.endText ++ (closeMark ++ rest)))) =
      t.keyword.closing ++ (t.endText ++ (closeMark ++ rest)) := by
    rw [dropBlank_blank_append t.endLead_blank]
    obtain ⟨tail, split⟩ : ∃ tail, t.keyword.closing = 'e' :: tail := by
      cases closing : t.keyword.closing <;> simp_all
    rw [split, List.cons_append, dropBlank_cons_of_not_blank (by decide)]
  have pluralFirst : pluralWord.head? = some 'p' := by decide +kernel
  have notPlural : wordAt pluralWord (t.keyword.closing ++ (t.endText ++ (closeMark ++ rest))) = none :=
    wordAt_of_head_ne pluralFirst (head?_literal_append first _) (by decide)
  have ends := wordAt_append t.keyword.closing _ (after ▸ opens)
  have free : NoMatchIn closeMark (t.keyword.closing ++ t.endText) (closeMark ++ rest) :=
    NoMatchIn.append (noMatchIn_of_not_mem solid)
      (noMatchIn_close t.endText_unclosed (by simp [closeMark]))
  have closed : breakOn closeMark (t.keyword.closing ++ (t.endText ++ (closeMark ++ rest))) =
      some (t.keyword.closing ++ t.endText, rest) := by
    rw [← List.append_assoc]
    exact breakOn_close free
  simp only [endTag, List.append_assoc]
  refine blockBody_of_end (breakOn_open plain) ?_ ?_ (dropped ▸ closed)
  · rw [dropped, notPlural]
    simp
  · rw [dropped, ends]
    rfl

theorem scanBlock_render (line : Nat) (rest : List Char) :
    scanBlock line t.keyword.closing (t.text.render ++ (closeMark ++ (t.body ++ rest))) =
      .ok (t.toMessage line, rest) := by
  have split : breakOn closeMark (t.text.render ++ (closeMark ++ (t.body ++ rest))) =
      some (t.text.render, t.body ++ rest) :=
    breakOn_close (t.text.noMatchIn_render (by simp [closeMark]))
  rw [scanBlock, split]
  simp only [t.text.contextClause_render]
  -- a `plural` tag, if any, ends the singular before the end tag closes the block
  cases plural : t.plural with
  | none =>
    simp only [body, plural, Option.map_none, Option.getD_none, List.nil_append, List.append_assoc]
    rw [blockBody_endTag t t.singular_plain [] rest]
    simp [toMessage, plural]
  | some p =>
    simp only [body, plural, Option.map_some, Option.getD_some, List.append_assoc]
    rw [blockBody_plural p t.singular_plain, blockBody_endTag t p.body_plain [] rest]
    simp [toMessage, plural]

end BlockTag

/-! ## Templates -/

theorem scanFrom_of_none {total : Nat} {cs : List Char} (absent : breakOn openMark cs = none) :
    scanFrom total cs = ([], none) := by
  rw [scanFrom]
  split
  next => rfl
  next skipped after found => simp [absent] at found

theorem scanFrom_of_inline {total : Nat} {cs skipped after rest rest' : List Char}
    {message : Option TagMessage} (found : breakOn openMark cs = some (skipped, after))
    (keyword : keywordIn keywords (dropBlank after) = some (.inline, rest))
    (read : scanInline (total - after.count '\n' + 1) rest = .ok (message, rest')) :
    scanFrom total cs = (message.toList ++ (scanFrom total rest').1, (scanFrom total rest').2) := by
  rw [scanFrom]
  split
  next absent => simp [found] at absent
  next skipped' after' found' =>
    rw [found] at found'
    obtain ⟨rfl, rfl⟩ := Prod.mk.inj (Option.some.inj found')
    split
    next absent => simp [keyword] at absent
    next rest₂ keyword' =>
      rw [keyword] at keyword'
      obtain rfl := (Prod.mk.inj (Option.some.inj keyword')).2
      dsimp only
      split
      next e failed => simp [read] at failed
      next found₂ message' read' =>
        rw [read] at read'
        obtain ⟨rfl, rfl⟩ := Prod.mk.inj (Except.ok.inj read')
        rfl
    next closing rest₂ keyword' => simp [keyword] at keyword'

theorem scanFrom_of_block {total : Nat} {cs skipped after closing rest rest' : List Char}
    {message : TagMessage} (found : breakOn openMark cs = some (skipped, after))
    (keyword : keywordIn keywords (dropBlank after) = some (.block closing, rest))
    (read : scanBlock (total - after.count '\n' + 1) closing rest = .ok (message, rest')) :
    scanFrom total cs = (message :: (scanFrom total rest').1, (scanFrom total rest').2) := by
  rw [scanFrom]
  split
  next absent => simp [found] at absent
  next skipped' after' found' =>
    rw [found] at found'
    obtain ⟨rfl, rfl⟩ := Prod.mk.inj (Option.some.inj found')
    split
    next absent => simp [keyword] at absent
    next rest₂ keyword' => simp [keyword] at keyword'
    next closing' rest₂ keyword' =>
      rw [keyword] at keyword'
      simp only [Option.some.injEq, Prod.mk.injEq, Opener.block.injEq] at keyword'
      obtain ⟨rfl, rfl⟩ := keyword'
      dsimp only
      split
      next e failed => simp [read] at failed
      next found₂ message' read' =>
        rw [read] at read'
        obtain ⟨rfl, rfl⟩ := Prod.mk.inj (Except.ok.inj read')
        rfl

/-- A message tag of either kind. -/
inductive Tag
  | inline (tag : InlineTag)
  | block (tag : BlockTag)

namespace Tag

/-- The text of the tag. -/
def render : Tag → List Char
  | inline t => t.render
  | block t => t.render

/-- The message of the tag, at `line`. -/
def toMessage : Tag → Nat → TagMessage
  | inline t => t.toMessage
  | block t => t.toMessage

/-- One step of the scan: after text with no `{%`, a tag gives its message, at one more
than the number of newlines before it, and the scan goes on after the tag. -/
theorem scanFrom_tag (total : Nat) {chunk : List Char} (plain : ¬ openMark <:+: chunk)
    (tag : Tag) (rest : List Char) :
    scanFrom total (chunk ++ (tag.render ++ rest)) =
      (tag.toMessage (total - (tag.render ++ rest).count '\n' + 1) :: (scanFrom total rest).1,
        (scanFrom total rest).2) := by
  cases tag with
  | inline t =>
    obtain ⟨g, gs, gap⟩ := List.exists_cons_of_ne_nil t.gap_spaced
    have blank : isBlank g = true := t.gap_blank g (by simp [gap])
    have first : t.keyword.word.head? = some 't' := by
      cases t.keyword <;> decide +kernel
    obtain ⟨tail, word⟩ : ∃ tail, t.keyword.word = 't' :: tail := by
      cases word : t.keyword.word <;> simp_all
    have region : t.region ++ (closeMark ++ rest) = g :: (gs ++ t.quote ::
        (t.message ++ t.quote :: t.text.render) ++ (closeMark ++ rest)) := by
      simp [InlineTag.region, gap]
    have dropped : dropBlank (t.lead ++ (t.keyword.word ++ (t.region ++ (closeMark ++ rest)))) =
        t.keyword.word ++ (t.region ++ (closeMark ++ rest)) := by
      rw [dropBlank_blank_append t.lead_blank, word, List.cons_append,
        dropBlank_cons_of_not_blank (by decide)]
    have keyword := keywordIn_inline t.keyword blank (gs ++ t.quote ::
        (t.message ++ t.quote :: t.text.render) ++ (closeMark ++ rest))
    rw [← region, ← dropped] at keyword
    simp only [render, InlineTag.render, List.append_assoc] at *
    rw [scanFrom_of_inline (breakOn_open plain) keyword (t.scanInline_region _ rest)]
    simp [toMessage, openMark]
  | block t =>
    have first : t.keyword.word.head? = some 'b' := by
      cases t.keyword <;> decide +kernel
    obtain ⟨tail, word⟩ : ∃ tail, t.keyword.word = 'b' :: tail := by
      cases word : t.keyword.word <;> simp_all
    obtain ⟨c, cs, after, opens⟩ := opens_of_spaced t.text_spaced (t.body ++ rest)
    have dropped : dropBlank (t.lead ++ (t.keyword.word ++ (t.text.render ++ (closeMark ++
        (t.body ++ rest))))) = t.keyword.word ++ (t.text.render ++ (closeMark ++ (t.body ++ rest))) := by
      rw [dropBlank_blank_append t.lead_blank, word, List.cons_append,
        dropBlank_cons_of_not_blank (by decide)]
    have keyword := keywordIn_block t.keyword opens
    rw [← after, ← dropped] at keyword
    simp only [render, BlockTag.render, List.append_assoc] at *
    rw [scanFrom_of_block (breakOn_open plain) keyword (t.scanBlock_render _ rest)]
    simp [toMessage, openMark]

end Tag

/-- A well-formed template: text with no `{%`, then tags, each followed by text with no
`{%`. -/
structure TaggedText where
  first : List Char
  tags : List (Tag × List Char)
  first_plain : ¬ openMark <:+: first
  chunks_plain : ∀ p ∈ tags, ¬ openMark <:+: p.2

/-- The text of the tags and chunks in order. -/
def renderTags (tags : List (Tag × List Char)) : List Char :=
  tags.flatMap fun p => p.1.render ++ p.2

/-- The messages of the tags in order, the first after `before` newlines; each is at one more
than the number of newlines before its tag. -/
def messagesFrom (before : Nat) : List (Tag × List Char) → List TagMessage
  | [] => []
  | (tag, chunk) :: rest =>
    tag.toMessage (before + 1) :: messagesFrom (before + (tag.render ++ chunk).count '\n') rest

namespace TaggedText

variable (t : TaggedText)

/-- The text of the template. -/
def render : List Char := t.first ++ renderTags t.tags

/-- The messages of the template's tags, in order. -/
def messages : List TagMessage := messagesFrom (t.first.count '\n') t.tags

end TaggedText

/-- The scan of well-formed text: `total` counts the newlines of the whole template, of which
`before` come before `chunk`. -/
theorem scanFrom_renderTags (total : Nat) (tags : List (Tag × List Char))
    (plain : ∀ p ∈ tags, ¬ openMark <:+: p.2) {chunk : List Char} (first : ¬ openMark <:+: chunk)
    (before : Nat) (counted : total = before + (chunk ++ renderTags tags).count '\n') :
    scanFrom total (chunk ++ renderTags tags) = (messagesFrom (before + chunk.count '\n') tags, none) := by
  induction tags generalizing chunk before with
  | nil => simpa [renderTags, messagesFrom] using scanFrom_of_none (breakOn_eq_none first)
  | cons p tags ih =>
    obtain ⟨tag, next⟩ := p
    have rest := ih (fun q mem => plain q (List.mem_cons_of_mem _ mem))
      (plain (tag, next) List.mem_cons_self) (before + chunk.count '\n' + tag.render.count '\n')
      (by simp [renderTags, List.count_append] at counted ⊢; omega)
    have split : chunk ++ renderTags ((tag, next) :: tags) =
        chunk ++ (tag.render ++ (next ++ renderTags tags)) := by
      simp [renderTags]
    have line : total - (tag.render ++ (next ++ renderTags tags)).count '\n' + 1 =
        before + chunk.count '\n' + 1 := by
      simp [renderTags, List.count_append] at counted ⊢
      omega
    rw [split, Tag.scanFrom_tag total first, rest, line]
    simp [messagesFrom, List.count_append, Nat.add_assoc]

/-- The scanner reads every well-formed template completely: it yields the message of each tag
in order, each at one more than the number of newlines before the tag, and stops at the end
without an error. -/
theorem scan_render (t : TaggedText) : scan (String.ofList t.render) = (t.messages, none) := by
  have run := scanFrom_renderTags (t.render.count '\n') t.tags t.chunks_plain t.first_plain 0
    (by simp [TaggedText.render])
  rw [scan, String.toList_ofList]
  simpa [TaggedText.render, TaggedText.messages] using run

/-! ## A template with both kinds of tag -/

/-- Text without the first character of the pattern is left as it is. -/
theorem replaceEach_of_not_mem {p : Char} {ps rep cs : List Char} (absent : p ∉ cs) :
    replaceEach p ps rep cs = cs := by
  fun_induction replaceEach p ps rep cs with
  | case1 => rfl
  | case2 c cs after found ih =>
    have split := afterPrefix?_eq_some found
    rw [List.cons_append, List.cons.injEq] at split
    exact absurd (by rw [← split.1]; exact List.mem_cons_self) absent
  | case3 c cs _ ih => rw [ih fun member => absent (List.mem_cons_of_mem c member)]

/-- Text with no brace and no space has no placeholder padding to remove. -/
theorem collapsePlaceholders_of_solid {cs : List Char} (noBrace : '{' ∉ cs) (noSpace : ' ' ∉ cs) :
    collapsePlaceholders cs = cs := by
  have fixed : collapseRound cs = cs := by
    simp only [collapseRound, replaceAll, replaceEach_of_not_mem noBrace,
      replaceEach_of_not_mem noSpace]
  rw [collapsePlaceholders, dif_pos fixed]

/-- A pattern is not inside text that lacks one of its characters. -/
theorem not_infix_of_not_mem {pat cs : List Char} {c : Char} (inPat : c ∈ pat) (absent : c ∉ cs) :
    ¬ pat <:+: cs :=
  fun inside => absent (inside.subset inPat)

theorem unclosed_of_not_mem {cs : List Char} (absent : '%' ∉ cs) : ¬ closeMark <:+: cs :=
  not_infix_of_not_mem (by simp [closeMark]) absent

theorem plain_of_not_mem {cs : List Char} (absent : '{' ∉ cs) : ¬ openMark <:+: cs :=
  not_infix_of_not_mem (by simp [openMark]) absent

theorem contextFree_of_not_mem {cs : List Char} (absent : 'x' ∉ cs) : ¬ contextWord <:+: cs :=
  not_infix_of_not_mem (by simp [contextWord]) absent

/-- The clause ` context "greeting" ` of an inline tag. -/
def greetingClause : ContextClause where
  before := []
  gap := [' ']
  space := [' ']
  quote := '"'
  context := "greeting".toList
  after := [' ']
  before_free := contextFree_of_not_mem (by simp)
  gap_spaced := by simp
  gap_blank := blank_space
  space_spaced := by simp
  space_blank := blank_space
  quote_mark := .inl rfl
  context_closed := by simp
  before_unclosed := unclosed_of_not_mem (by simp)
  context_unclosed := unclosed_of_not_mem (by simp)
  after_unclosed := unclosed_of_not_mem (by simp)

/-- The inline tag `{% trans "Hello" context "greeting" %}`. -/
def greetingTag : InlineTag where
  lead := [' ']
  keyword := .trans
  gap := [' ']
  quote := '"'
  message := "Hello".toList
  text := .clause greetingClause
  lead_blank := blank_space
  gap_spaced := by simp
  gap_blank := blank_space
  quote_mark := .inl rfl
  message_closed := by simp
  message_unclosed := unclosed_of_not_mem (by simp)

/-- The plural part `{% plural %}Apples` of a block. -/
def applesPlural : PluralTag where
  lead := [' ']
  text := [' ']
  body := "Apples".toList
  lead_blank := blank_space
  text_spaced := fun c first => blank_space c (List.mem_of_mem_head? first)
  text_unclosed := unclosed_of_not_mem (by simp)
  body_plain := plain_of_not_mem (by simp)

/-- The block tag `{% blocktrans %}Apple{% plural %}Apples{% endblocktrans %}`. -/
def applesTag : BlockTag where
  lead := [' ']
  keyword := .blocktrans
  text := .plain [' '] (unclosed_of_not_mem (by simp)) (contextFree_of_not_mem (by simp))
  singular := "Apple".toList
  plural := some applesPlural
  endLead := [' ']
  endText := [' ']
  lead_blank := blank_space
  text_spaced := fun c first => blank_space c (List.mem_of_mem_head? first)
  singular_plain := plain_of_not_mem (by simp)
  endLead_blank := blank_space
  endText_spaced := fun c first => blank_space c (List.mem_of_mem_head? first)
  endText_unclosed := unclosed_of_not_mem (by simp)

/-- A page with the greeting on its first line and the block on its second. -/
def greetingPage : TaggedText where
  first := "<p>".toList
  tags := [(.inline greetingTag, "</p>\n<p>".toList), (.block applesTag, "</p>".toList)]
  first_plain := plain_of_not_mem (by simp)
  chunks_plain := by
    intro chunk member
    simp only [List.mem_cons, List.not_mem_nil, or_false] at member
    rcases member with rfl | rfl <;> exact plain_of_not_mem (by simp)

/-- The scan of the page yields the inline message with its context on line 1 and the block's
singular and plural on line 2. -/
theorem scan_greetingPage :
    scan (String.ofList greetingPage.render) =
      ([⟨1, "Hello", "", "greeting"⟩, ⟨2, "Apple", "Apples", ""⟩], none) := by
  have apple : collapsePlaceholders "Apple".toList = "Apple".toList :=
    collapsePlaceholders_of_solid (by simp) (by simp)
  have apples : collapsePlaceholders "Apples".toList = "Apples".toList :=
    collapsePlaceholders_of_solid (by simp) (by simp)
  have opening : "<p>".toList.count '\n' = 0 := by simp
  have lines : ((Tag.inline greetingTag).render ++ "</p>\n<p>".toList).count '\n' = 1 := by
    decide +kernel
  rw [scan_render]
  simp only [TaggedText.messages, greetingPage, messagesFrom, opening, lines]
  simp only [Tag.toMessage, InlineTag.toMessage, BlockTag.toMessage, greetingTag, applesTag,
    applesPlural, TagText.context, greetingClause, Option.map_some, Option.getD_some,
    Option.getD_none, apple, apples, String.ofList_toList]

end Localize.Template
