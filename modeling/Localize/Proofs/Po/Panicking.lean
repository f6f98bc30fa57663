import Localize.Proofs.Po.Fits

/-! # Where reading a catalog panics

A `msgstr[n]` line grows the strings of the entry being read to hold form `n`. Up to `maxIndex`
the reader stores the form (`ReadState.keyword_eq`); past it growing panics, with the text
`growthPanic n` (`growPanic?_past`). So a keyword line panics exactly when it sets a form past
`maxIndex` and its string reads (`ReadState.keyword_panicked`, `ReadState.keyword_panics`), and
no other line panics (`ReadState.line_panicked`). The reader's invariant (`ReadState.Fits`)
bounds the strings grown so far, so reading a text panics exactly when it reaches a line that
sets a form past `maxIndex` (`parse_panics_past_maxIndex`).
-/

namespace Localize.Po

open Localize.Text

/-- A line after its marks: trimmed, without a leading `#~` and the blanks after it. -/
def afterMarks (raw : List Char) : List Char :=
  match afterPrefix? "#~".toList (trimBlank raw) with
  | some rest => dropBlank rest
  | none => trimBlank raw

/-- A line that sets form `i` of the entry being read: after its marks it is a keyword line for
form `i`, and its string reads. -/
def SetsForm (raw : List Char) (i : Nat) : Prop :=
  ∃ rest value, readKeyword 0 (afterMarks raw) = .ok (.str i, rest) ∧ unquote rest = .ok value

/-! ## Growing past `maxIndex` -/

theorem maxIndex_succ : maxIndex + 1 = stringCapacity := by decide

/-- Growing strings that hold at most `maxIndex + 1` forms to a form past `maxIndex` panics. -/
theorem growPanic?_past {length i : Nat} (bounded : length ≤ maxIndex + 1) (past : maxIndex < i) :
    growPanic? length i = some (growthPanic i) := by
  have capacity := maxIndex_succ
  unfold growPanic?
  exact if_neg (by omega)

/-- A growth that panics is one to a form past `maxIndex`. -/
theorem growPanic?_eq_some {length i : Nat} {t : String} (panicked : growPanic? length i = some t) :
    maxIndex < i ∧ t = growthPanic i := by
  have capacity := maxIndex_succ
  unfold growPanic? at panicked
  split_ifs at panicked with grown
  exact ⟨by omega, (Option.some.inj panicked).symm⟩

/-! ## Keyword lines -/

/-- The number of a keyword line shows only in the errors it reports. -/
theorem readKeyword_renumber {n : Nat} {line : List Char} {read : Field × List Char}
    (found : readKeyword n line = .ok read) (m : Nat) : readKeyword m line = .ok read := by
  unfold readKeyword at found ⊢
  repeat' split at found
  all_goals simp_all

/-- Every keyword starts with `m`. -/
theorem readKeyword_head {n : Nat} {line : List Char} {read : Field × List Char}
    (found : readKeyword n line = .ok read) : ∃ rest, line = 'm' :: rest := by
  unfold readKeyword at found
  repeat' split at found
  -- each keyword read is a prefix of the line; the last case reads none
  all_goals first
    | (have whole := afterPrefix?_eq_some (by assumption)
       simp at whole
       exact ⟨_, whole⟩)
    | simp at found

namespace ReadState

/-- A keyword line panics only by growing the strings to a form past `maxIndex`, once its
keyword and its string read. -/
theorem keyword_panicked {s : ReadState} {n : Nat} {obs : Bool} {line : List Char} {t : String}
    (panicked : s.keyword n obs line = .error (.panicked t)) :
    ∃ i rest value, readKeyword n line = .ok (.str i, rest) ∧ unquote rest = .ok value ∧
      maxIndex < i ∧ t = growthPanic i := by
  unfold ReadState.keyword at panicked
  cases found : readKeyword n line with
  | error e => simp [found, bind, Except.bind, Except.mapError] at panicked
  | ok read =>
    obtain ⟨field, rest⟩ := read
    cases quoted : unquote rest with
    | error e => simp [found, quoted, bind, Except.bind, Except.mapError] at panicked
    | ok value =>
      simp only [found, quoted, bind, Except.bind, Except.mapError] at panicked
      -- only a form needs room, in strings that are those of `s`
      cases field with
      | str i =>
        cases room : growPanic? s.draft.entry.msgstr.length i with
        | none => cases obs <;> simp_all [Entry.growPanic?, ReadState.edit, pure, Except.pure]
        | some text =>
          have same : text = t := by
            cases obs <;> simp_all [Entry.growPanic?, ReadState.edit, throw, throwThe,
              MonadExceptOf.throw]
          obtain ⟨past, grown⟩ := growPanic?_eq_some room
          exact ⟨i, rest, value, rfl, quoted, past, same ▸ grown⟩
      | _ => simp [Entry.growPanic?, pure, Except.pure] at panicked

/-- A keyword line that sets a form past `maxIndex` and whose string reads panics. -/
theorem keyword_panics {s : ReadState} (bounded : s.draft.entry.msgstr.length ≤ maxIndex + 1)
    (n : Nat) (obs : Bool) {line rest : List Char} {i : Nat} {value : String}
    (found : readKeyword n line = .ok (.str i, rest)) (quoted : unquote rest = .ok value)
    (past : maxIndex < i) : s.keyword n obs line = .error (.panicked (growthPanic i)) := by
  have room := growPanic?_past bounded past
  cases obs <;> simp [ReadState.keyword, found, quoted, bind, Except.bind, Except.mapError,
    Entry.growPanic?, ReadState.edit, room, throw, throwThe, MonadExceptOf.throw]

/-! ## Lines and runs -/

/-- A line whose text after its marks starts with a keyword is read as a keyword line, marked as
obsolete or not. -/
theorem line_eq_keyword (s : ReadState) (n : Nat) {raw rest : List Char}
    (starts : afterMarks raw = 'm' :: rest) :
    ∃ obs, s.line n raw = s.keyword n obs (afterMarks raw) := by
  rw [starts]
  unfold afterMarks at starts
  cases marked : afterPrefix? "#~".toList (trimBlank raw) with
  | none =>
    simp only [marked] at starts
    have unmarked : afterPrefix? ['#', '~'] ('m' :: rest) = none := rfl
    exact ⟨false, by simp [ReadState.line, starts, unmarked]⟩
  | some after =>
    simp only [marked] at starts
    have nonempty : (trimBlank raw).isEmpty = false := by
      rw [afterPrefix?_eq_some marked]
      rfl
    have marked' : afterPrefix? ['#', '~'] (trimBlank raw) = some after := marked
    exact ⟨true, by simp [ReadState.line, nonempty, marked', starts]⟩

/-- A string that is either read or rejected does not end in a panic. -/
theorem map_rejected_ne_panicked {α β : Type} (f : α → β) (x : Except QuoteError α)
    (reject : QuoteError → ReadError) (t : String) :
    f <$> x.mapError (fun e => ReadFailure.rejected (reject e)) ≠ .error (.panicked t) := by
  cases x <;> simp [Except.mapError, Functor.map, Except.map]

/-- Only a keyword line panics, by growing the strings to a form past `maxIndex`: every other
line is taken in or rejected. -/
theorem line_panicked {s : ReadState} {n : Nat} {raw : List Char} {t : String}
    (panicked : s.line n raw = .error (.panicked t)) :
    ∃ i, SetsForm raw i ∧ maxIndex < i ∧ t = growthPanic i := by
  suffices keyword : ∃ obs line, afterMarks raw = line ∧
      s.keyword n obs line = .error (.panicked t) by
    obtain ⟨obs, line, after, panicked⟩ := keyword
    obtain ⟨i, rest, value, found, quoted, past, text⟩ := keyword_panicked panicked
    exact ⟨i, ⟨rest, value, after ▸ readKeyword_renumber found 0, quoted⟩, past, text⟩
  -- the dispatch of `ReadState.line`: only its last case can end in a panic
  unfold ReadState.line at panicked
  by_cases empty : (trimBlank raw).isEmpty
  · simp [empty] at panicked
  simp only [empty, Bool.false_eq_true, if_false] at panicked
  have after := afterMarks.eq_1 raw
  cases marked : afterPrefix? "#~".toList (trimBlank raw) <;>
    simp only [marked] at panicked after <;>
    split at panicked
  all_goals first
    | exact ⟨_, _, after, panicked⟩
    | cases panicked
    | (split at panicked
       · simp at panicked
       · exact absurd panicked (map_rejected_ne_panicked _ _ _ t))

/-- A line that sets a form past `maxIndex` panics, from a state whose strings hold at most
`maxIndex + 1` forms. -/
theorem line_panics {s : ReadState} (bounded : s.draft.entry.msgstr.length ≤ maxIndex + 1)
    (n : Nat) {raw : List Char} {i : Nat} (sets : SetsForm raw i) (past : maxIndex < i) :
    s.line n raw = .error (.panicked (growthPanic i)) := by
  obtain ⟨rest, value, found, quoted⟩ := sets
  obtain ⟨tail, starts⟩ := readKeyword_head found
  obtain ⟨obs, keyword⟩ := line_eq_keyword s n starts
  rw [keyword]
  exact keyword_panics bounded n obs (readKeyword_renumber found n) quoted past

/-- A run of lines panics only at a line that sets a form past `maxIndex`. -/
theorem lines_panicked {s : ReadState} {n : Nat} {ls : List (List Char)} {t : String}
    (panicked : s.lines n ls = .error (.panicked t)) :
    ∃ raw ∈ ls, ∃ i, SetsForm raw i ∧ maxIndex < i ∧ t = growthPanic i := by
  induction ls generalizing s n with
  | nil => cases panicked
  | cons l ls ih =>
    simp only [ReadState.lines, bind, Except.bind] at panicked
    cases step : s.line n l with
    | error e =>
      simp only [step, Except.error.injEq] at panicked
      subst panicked
      obtain ⟨i, sets, past, text⟩ := line_panicked step
      exact ⟨l, List.mem_cons_self, i, sets, past, text⟩
    | ok s' =>
      simp only [step] at panicked
      obtain ⟨raw, member, later⟩ := ih panicked
      exact ⟨raw, List.mem_cons_of_mem l member, later⟩

end ReadState

/-- **Reading a catalog panics exactly at a form past `maxIndex`.** A text whose reading panics
has a line that sets a form past `maxIndex`, and the panic's text is that of growing to it; and
reading a text panics, with that text, once it reaches such a line. So a text whose every
`msgstr[n]` line has `n` at most `maxIndex` gives a catalog or a rejected line. -/
theorem parse_panics_past_maxIndex (text : String) :
    (∀ t, Catalog.parse text = .error (.panicked t) →
      ∃ raw ∈ lines text.toList, ∃ i, SetsForm raw i ∧ maxIndex < i ∧ t = growthPanic i) ∧
    ∀ pre raw post (s : ReadState) i, lines text.toList = pre ++ raw :: post →
      ({} : ReadState).lines 1 pre = .ok s → SetsForm raw i → maxIndex < i →
      Catalog.parse text = .error (.panicked (growthPanic i)) := by
  refine ⟨fun t panicked => ?_, fun pre raw post s i split read sets past => ?_⟩
  · unfold Catalog.parse at panicked
    cases run : ({} : ReadState).lines 1 (lines text.toList) with
    | ok s => simp [run, bind, Except.bind, pure, Except.pure] at panicked
    | error e =>
      simp only [run, bind, Except.bind, Except.error.injEq] at panicked
      subst panicked
      exact ReadState.lines_panicked run
  · -- the lines before keep the reader's state fitting, which bounds the strings grown so far
    have plain : ∀ l ∈ pre, '\n' ∉ l := fun l member =>
      newline_not_mem_of_mem_lines (split ▸ List.mem_append_left _ member)
    have fit := ReadState.Fits.lines ⟨by simp, Draft.fits_default⟩ plain read
    unfold Catalog.parse
    rw [split, ReadState.lines_append_of_ok read, ReadState.lines,
      ReadState.line_panics fit.draft.bounded _ sets past]
    rfl

/-- A string set at the largest machine-sized index makes reading panic with an index out of
bounds. -/
theorem parse_panics_at_wordMax :
    SetsForm "msgstr[18446744073709551615] \"x\"".toList wordMax ∧ maxIndex < wordMax ∧
      Catalog.parse "msgid \"a\"\nmsgstr[18446744073709551615] \"x\"\n" = .error
        (.panicked "index out of bounds: the len is 0 but the index is 18446744073709551615") := by
  have sets : SetsForm "msgstr[18446744073709551615] \"x\"".toList wordMax :=
    ⟨[' ', '"', 'x', '"'], "x", by rfl, by rfl⟩
  refine ⟨sets, maxIndex_lt_wordMax, ?_⟩
  exact (parse_panics_past_maxIndex _).2 ["msgid \"a\"".toList] _ []
    { draft := { entry := { msgid := "a" }, field := some .id, seenId := true } } wordMax
    (by decide +kernel) (by rfl) sets maxIndex_lt_wordMax

end Localize.Po
