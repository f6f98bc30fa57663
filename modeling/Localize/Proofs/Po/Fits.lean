import Localize.Proofs.Po.Reading

/-! # What every catalog read satisfies

The reader keeps a translator comment as the rest of its trimmed line, an extracted comment or
previous-message line trimmed, each reference as a word, each flag as a trimmed piece between
commas, and only forms of `msgstr[i]` lines that it has room for, at most `maxIndex`. So every entry of a
catalog that reads fits (`Catalog.fits_of_parse`): these are the side conditions under which the
printer's text reads back. The proof is an invariant of the reader's state
(`ReadState.Fits`), kept by every line (`ReadState.Fits.line`, one case for each kind of line)
and so by every run (`ReadState.Fits.lines`).
-/

namespace Localize.Po

open Localize.Text

/-- A text kept as written after a comment marker: no newline and no blank at either end. -/
def TrimmedLine (t : String) : Prop := '\n' ∉ t.toList ∧ SolidEnds t.toList

/-- A translator comment is kept as written after `# `: it holds no newline and does not end in
a blank. -/
def CommentFits (c : String) : Prop :=
  '\n' ∉ c.toList ∧ ∀ x ∈ c.toList.getLast?, isBlank x = false

/-- A word: a non-empty run of characters that are not blank. -/
def IsWord (w : String) : Prop := w.toList ≠ [] ∧ ∀ x ∈ w.toList, isBlank x = false

/-- A flag: a non-empty trimmed text with no comma. -/
def IsFlag (f : String) : Prop := f.toList ≠ [] ∧ TrimmedLine f ∧ ',' ∉ f.toList

/-- The comments, references, flags and previous-message lines of an entry are each one that a
line keeps as written. -/
structure Entry.NotesFit (e : Entry) : Prop where
  comments : ∀ c ∈ e.comments, CommentFits c
  extracted : ∀ x ∈ e.extracted, TrimmedLine x
  references : ∀ r ∈ e.references, IsWord r
  flags : ∀ f ∈ e.flags, IsFlag f
  previous : ∀ p ∈ e.previous, TrimmedLine p

/-- What every entry read from a catalog satisfies: its notes fit, it has a string, and no more
strings than the reader grows a list to. -/
structure Entry.Fits (e : Entry) : Prop extends e.NotesFit where
  forms : e.msgstr ≠ []
  bounded : e.msgstr.length ≤ maxIndex + 1

/-- What the reader keeps true of the entry it is reading: its notes fit, it has no more strings
than the reader grows a list to, and the form a quoted line would continue lies at most at
`maxIndex`. -/
structure Draft.Fits (d : Draft) : Prop where
  notes : d.entry.NotesFit
  bounded : d.entry.msgstr.length ≤ maxIndex + 1
  field : ∀ i, d.field = some (.str i) → i ≤ maxIndex

/-- What the reader keeps true: the entries it has read fit, and so does the one it is
reading. -/
structure ReadState.Fits (s : ReadState) : Prop where
  done : ∀ e ∈ s.done, e.Fits
  draft : s.draft.Fits

/-- Setting a field leaves the notes alone. -/
theorem Entry.NotesFit.modifyField {e : Entry} (fit : e.NotesFit) (field : Field)
    (f : String → String) : (e.modifyField field f).NotesFit := by
  cases field <;>
    exact ⟨fit.comments, fit.extracted, fit.references, fit.flags, fit.previous⟩

theorem length_modifyField_le {e : Entry} {field : Field} (f : String → String)
    (index : ∀ i, field = .str i → i ≤ maxIndex) (bounded : e.msgstr.length ≤ maxIndex + 1) :
    (e.modifyField field f).msgstr.length ≤ maxIndex + 1 := by
  cases field with
  | str i =>
    have fits := index i rfl
    simp only [Entry.modifyField, length_setPadded]
    omega
  | _ => exact bounded

/-- The empty draft fits. -/
theorem Draft.fits_default : ({} : Draft).Fits :=
  ⟨⟨by simp, by simp, by simp, by simp, by simp⟩, by simp, by simp⟩

namespace ReadState

/-- Ending an entry keeps the reader's state fitting: the entry kept gets a string when it has
none. -/
theorem Fits.finish {s : ReadState} (fit : s.Fits) : s.finish.Fits := by
  have kept : ∀ e : Entry, e.NotesFit → e.msgstr.length ≤ maxIndex + 1 →
      (if e.msgstr.isEmpty then { e with msgstr := [""] } else e).Fits := by
    intro e notes bounded
    split
    · exact ⟨⟨notes.comments, notes.extracted, notes.references, notes.flags, notes.previous⟩,
        by simp, by simp [maxIndex]⟩
    · rename_i nonempty
      exact ⟨notes, by simpa using nonempty, bounded⟩
  unfold ReadState.finish
  split
  · refine ⟨fun e member => ?_, Draft.fits_default⟩
    rcases List.mem_cons.mp member with rfl | earlier
    · exact kept _ fit.draft.notes fit.draft.bounded
    · exact fit.done e earlier
  · exact ⟨fit.done, Draft.fits_default⟩

/-- An edit of the entry being read that keeps its notes fitting and its strings keeps the
reader's state fitting. -/
theorem Fits.edit {s : ReadState} (fit : s.Fits) {f : Entry → Entry}
    (notes : (f s.draft.entry).NotesFit)
    (bounded : (f s.draft.entry).msgstr.length ≤ maxIndex + 1) : (s.edit f).Fits :=
  ⟨fit.done, ⟨notes, bounded, fit.draft.field⟩⟩

/-- Trimmed text from a line without newlines is kept as written. -/
theorem trimmedLine_trimBlank {r : List Char} (plain : '\n' ∉ r) :
    TrimmedLine (String.ofList (trimBlank r)) := by
  refine ⟨?_, by simpa using solidEnds_trimBlank r⟩
  simp only [String.toList_ofList]
  exact fun inside => plain ((trimBlank_sublist r).subset inside)

/-- The words of a line are words. -/
theorem isWord_of_mem_words {r : List Char} {w : String}
    (member : w ∈ (words r).map String.ofList) : IsWord w := by
  obtain ⟨word, found, rfl⟩ := List.mem_map.mp member
  obtain ⟨nonempty, solidWord⟩ := mem_words found
  exact ⟨by simpa using nonempty, by simpa using fun c inside => (solidWord c inside).1⟩

/-- The trimmed pieces between the commas of a line without newlines that are not empty are
flags. -/
theorem isFlag_of_mem_pieces {r : List Char} (plain : '\n' ∉ r) {f : String}
    (member : f ∈ (((r.splitOn ',').map trimBlank).filter (!·.isEmpty)).map String.ofList) :
    IsFlag f := by
  obtain ⟨flag, kept, rfl⟩ := List.mem_map.mp member
  obtain ⟨trimmed, nonempty⟩ := List.mem_filter.mp kept
  obtain ⟨piece, split, rfl⟩ := List.mem_map.mp trimmed
  have within : ∀ c ∈ trimBlank piece, c ∈ r ∧ c ≠ ',' := fun c inside =>
    mem_of_mem_splitOn split ((trimBlank_sublist piece).subset inside)
  refine ⟨by simpa using nonempty, ⟨?_, by simpa using solidEnds_trimBlank piece⟩, ?_⟩
  · simp only [String.toList_ofList]
    exact fun inside => plain (within _ inside).1
  · simp only [String.toList_ofList]
    exact fun inside => (within _ inside).2 rfl

/-- The end of a line `#...` with solid ends and no newline is a translator comment as
written. -/
theorem commentFits_of_suffix {body text : List Char} (solid : SolidEnds ('#' :: body))
    (plain : '\n' ∉ body) (suffix : text <:+ '#' :: body) : CommentFits (String.ofList text) := by
  refine ⟨fun inside => ?_, fun x last => ?_⟩
  · rw [String.toList_ofList] at inside
    rcases List.mem_cons.mp (suffix.subset inside) with hash | found
    · cases hash
    · exact plain found
  · rw [String.toList_ofList] at last
    obtain ⟨pre, whole⟩ := suffix
    have nonempty : text ≠ [] := fun empty => by simp [empty] at last
    exact solid.2 x (by rw [← whole, List.getLast?_append_of_ne_nil _ nonempty]; exact last)

/-- A comment line keeps the reader's state fitting; `body` follows the `#` of a trimmed line
without newlines. -/
theorem Fits.comment {s : ReadState} (fit : s.Fits) {body : List Char}
    (solid : SolidEnds ('#' :: body)) (plain : '\n' ∉ body) : (s.comment body).Fits := by
  have started : (if s.draft.seenStr then s.finish else s).Fits := by
    split
    · exact fit.finish
    · exact fit
  unfold ReadState.comment
  generalize (if s.draft.seenStr then s.finish else s) = t at started ⊢
  obtain ⟨⟨comments, extracted, references, flags, previous⟩, bounded, _⟩ := started.draft
  -- each kind of comment appends to one of the notes; what follows its marker has no newline
  split
  · exact started.edit ⟨comments, extracted,
      List.forall_mem_append.mpr ⟨references, fun _ => isWord_of_mem_words⟩, flags, previous⟩
      bounded
  · exact started.edit ⟨comments, extracted, references, List.forall_mem_append.mpr
      ⟨flags, fun _ => isFlag_of_mem_pieces fun inside => plain (List.mem_cons_of_mem _ inside)⟩,
      previous⟩ bounded
  · refine started.edit ⟨comments, List.forall_mem_append.mpr ⟨extracted, fun x member => ?_⟩,
      references, flags, previous⟩ bounded
    rw [List.mem_singleton.mp member]
    exact trimmedLine_trimBlank fun inside => plain (List.mem_cons_of_mem _ inside)
  · refine started.edit ⟨comments, extracted, references, flags,
      List.forall_mem_append.mpr ⟨previous, fun p member => ?_⟩⟩ bounded
    rw [List.mem_singleton.mp member]
    exact trimmedLine_trimBlank fun inside => plain (List.mem_cons_of_mem _ inside)
  · -- a translator comment: the rest of the line after one space
    have fits : ∀ text, text <:+ '#' :: body → ∀ c ∈ [String.ofList text], CommentFits c := by
      intro text suffix c member
      rw [List.mem_singleton.mp member]
      exact commentFits_of_suffix solid plain suffix
    split
    · rename_i r _ _ _ _
      exact started.edit ⟨List.forall_mem_append.mpr ⟨comments,
        fits r ((List.suffix_cons _ _).trans (List.suffix_cons _ _))⟩, extracted, references, flags,
        previous⟩ bounded
    · exact started.edit ⟨List.forall_mem_append.mpr ⟨comments, fits body (List.suffix_cons _ _)⟩,
        extracted, references, flags, previous⟩ bounded

/-- A keyword line keeps the reader's state fitting. -/
theorem Fits.keyword {s s' : ReadState} (fit : s.Fits) {n : Nat} {obs : Bool} {line : List Char}
    (read : s.keyword n obs line = .ok s') : s'.Fits := by
  obtain ⟨field, rest, value, -, _, room, rfl⟩ := keyword_eq_ok read
  have started : (s.before field).Fits := by
    rcases s.before_eq_or_finish field with same | ended
    · rw [same]
      exact fit
    · rw [ended]
      exact fit.finish
  obtain ⟨notes, bounded, _⟩ := started.draft
  -- the reader grows the strings only to forms it has room for
  have index : ∀ i, field = .str i → i ≤ maxIndex := by
    rintro i rfl
    exact le_maxIndex_of_growPanic? room bounded
  have marked : (if obs then { (s.before field).draft.entry with obsolete := true }
      else (s.before field).draft.entry).NotesFit ∧
      (if obs then { (s.before field).draft.entry with obsolete := true }
        else (s.before field).draft.entry).msgstr.length ≤ maxIndex + 1 := by
    cases obs
    · exact ⟨notes, bounded⟩
    · exact ⟨⟨notes.comments, notes.extracted, notes.references, notes.flags, notes.previous⟩,
        bounded⟩
  refine ⟨started.done, ⟨?_, ?_, ?_⟩⟩
  · simpa [Draft.keyed] using marked.1.modifyField field fun _ => value
  · simpa [Draft.keyed] using length_modifyField_le (fun _ => value) index marked.2
  · intro i same
    exact index i (Option.some.inj same)

/-- A quoted line continuing a field keeps the reader's state fitting. -/
theorem Fits.continued {s : ReadState} (fit : s.Fits) {field : Field}
    (last : s.draft.field = some field) (f : String → String) :
    (s.edit fun e => e.modifyField field f).Fits :=
  fit.edit (fit.draft.notes.modifyField field f)
    (length_modifyField_le f (fun i same => fit.draft.field i (same ▸ last)) fit.draft.bounded)

/-- A previous-message line of an obsolete entry keeps the reader's state fitting. -/
theorem Fits.previousLine {s : ReadState} (fit : s.Fits) {r : List Char} (plain : '\n' ∉ r) :
    (s.edit fun e => { e with previous := e.previous ++ [String.ofList (trimBlank r)] }).Fits := by
  obtain ⟨⟨comments, extracted, references, flags, previous⟩, bounded, _⟩ := fit.draft
  refine fit.edit ⟨comments, extracted, references, flags,
    List.forall_mem_append.mpr ⟨previous, fun p member => ?_⟩⟩ bounded
  rw [List.mem_singleton.mp member]
  exact trimmedLine_trimBlank plain

/-- A quoted line that reads keeps the reader's state fitting. -/
theorem Fits.quoted {s s' : ReadState} (fit : s.Fits) {n : Nat} {line : List Char} {field : Field}
    (last : s.draft.field = some field)
    (read : (do
      let value ← (unquote line).mapError fun e => ReadFailure.rejected (quoteError n e)
      pure (s.edit fun e => e.modifyField field (· ++ value))) = .ok s') : s'.Fits := by
  cases quoted : unquote line with
  | error e => simp [quoted, bind, Except.bind, Except.mapError] at read
  | ok value =>
    simp only [quoted, bind, Except.bind, Except.mapError, pure, Except.pure, Except.ok.injEq] at read
    subst read
    exact fit.continued last _

/-- Every line keeps the reader's state fitting, as long as it holds no newline. -/
theorem Fits.line {s s' : ReadState} (fit : s.Fits) {n : Nat} {raw : List Char}
    (plain : '\n' ∉ raw) (read : s.line n raw = .ok s') : s'.Fits := by
  have solid := solidEnds_trimBlank raw
  have within : ∀ c ∈ trimBlank raw, c ∈ raw := (trimBlank_sublist raw).subset
  simp only [ReadState.line] at read
  by_cases empty : (trimBlank raw).isEmpty
  · simp only [empty, if_true, Except.ok.injEq] at read
    subst read
    exact fit.finish
  simp only [empty, Bool.false_eq_true, if_false] at read
  cases marked : afterPrefix? "#~".toList (trimBlank raw) with
  | none =>
    simp only [marked] at read
    generalize trimBlank raw = line at read solid within
    split at read
    · cases read
      exact fit
    · cases read
      exact fit.previousLine fun inside => plain (within _ (List.mem_cons_of_mem _ inside))
    · cases read
      exact fit.comment solid fun inside => plain (within _ (List.mem_cons_of_mem _ inside))
    · split at read
      · cases read
      · exact fit.quoted (by assumption) read
    · exact fit.keyword read
  | some rest =>
    simp only [marked] at read
    have inRest : ∀ c ∈ dropBlank rest, c ∈ raw := fun c inside => by
      have whole := afterPrefix?_eq_some marked
      refine within c ?_
      rw [whole]
      exact List.mem_append_right _ ((List.dropWhile_suffix _).subset inside)
    generalize dropBlank rest = line at read inRest
    split at read
    · cases read
      exact fit
    · cases read
      exact fit.previousLine fun inside => plain (inRest _ (List.mem_cons_of_mem _ inside))
    · contradiction
    · split at read
      · cases read
      · exact fit.quoted (by assumption) read
    · exact fit.keyword read

/-- A run over lines without newlines keeps the reader's state fitting. -/
theorem Fits.lines {s s' : ReadState} (fit : s.Fits) {n : Nat} {ls : List (List Char)}
    (plain : ∀ l ∈ ls, '\n' ∉ l) (read : s.lines n ls = .ok s') : s'.Fits := by
  induction ls generalizing s n with
  | nil =>
    cases read
    exact fit
  | cons l ls ih =>
    simp only [ReadState.lines, bind, Except.bind] at read
    cases step : s.line n l with
    | error e => simp [step] at read
    | ok t =>
      simp only [step] at read
      exact ih (fit.line (plain l List.mem_cons_self) step)
        (fun m member => plain m (List.mem_cons_of_mem l member)) read

end ReadState

/-- Every entry of a catalog that reads fits. -/
theorem Catalog.fits_of_parse {t : String} {c : Catalog} (read : Catalog.parse t = .ok c) :
    ∀ e ∈ c.entries, e.Fits := by
  unfold Catalog.parse at read
  cases run : ({} : ReadState).lines 1 (lines t.toList) with
  | error e => simp [run, bind, Except.bind] at read
  | ok s =>
    simp only [run, bind, Except.bind, pure, Except.pure, Except.ok.injEq] at read
    subst read
    have fit := (ReadState.Fits.lines ⟨by simp, Draft.fits_default⟩
      (fun l member => newline_not_mem_of_mem_lines member) run).finish
    intro e member
    exact fit.done e (List.mem_reverse.mp member)

end Localize.Po
