import Localize.Store
import Localize.Proofs.Po.RoundTrip

/-! # The catalog reader reads what the store writes

The store writes a message as quoted rows (`quoteRows`): the message split at its newlines, each
row escaped for backslash and double quote only, every row but the last followed by an escaped
newline. Such a row reads back as itself (`unquote_rowLine`), so the rows of a message after its
keyword set the keyword's field to the whole message (`ReadState.lines_keyRows`).
-/

namespace Localize.Po

open Localize.Text

/-! ## Quoted rows -/

/-- The characters `escapeRow` writes for `c`. -/
theorem toList_escapeRow (cs : List Char) :
    (escapeRow (String.ofList cs)).toList =
      cs.flatMap fun c => if c = '\\' then ['\\', '\\'] else if c = '"' then ['\\', '"'] else [c] := by
  simp [escapeRow]

theorem decode_escapeRow_append (cs rest : List Char) :
    decode ((escapeRow (String.ofList cs)).toList ++ rest) = (decode rest).map (cs ++ ·) := by
  rw [toList_escapeRow]
  induction cs with
  | nil => simp
  | cons c cs ih =>
    by_cases backslash : c = '\\'
    · subst backslash
      simp [decode, unescapeChar, ih, Function.comp_def]
    · by_cases quote : c = '"'
      · subst quote
        simp [decode, unescapeChar, ih, Function.comp_def]
      · have plain : ∀ xs, decode (c :: xs) = (decode xs).map (c :: ·) := by
          intro xs
          cases xs <;> simp [decode, backslash]
        simp [backslash, quote, plain, ih, Function.comp_def]

/-- One row between quotes as the store writes it: escaped, and followed by an escaped newline
unless it is the last row of its message. -/
def rowLine (row : List Char) (last : Bool) : List Char :=
  '"' :: ((escapeRow (String.ofList row)).toList ++ if last then ['"'] else ['\\', 'n', '"'])

/-- The text a row line stands for. -/
def rowText (row : List Char) (last : Bool) : List Char :=
  row ++ if last then [] else ['\n']

theorem unquote_rowLine {pre : List Char} (blank : ∀ c ∈ pre, isBlank c = true) (row : List Char)
    (last : Bool) : unquote (pre ++ rowLine row last) = .ok (String.ofList (rowText row last)) := by
  have decoded : decode ((escapeRow (String.ofList row)).toList ++
      if last then [] else ['\\', 'n']) = some (rowText row last) := by
    rw [decode_escapeRow_append]
    cases last <;> simp [rowText, decode, unescapeChar]
  have shaped : rowLine row last = '"' :: (((escapeRow (String.ofList row)).toList ++
      if last then [] else ['\\', 'n']) ++ ['"']) := by
    cases last <;> simp [rowLine]
  rw [shaped]
  exact unquote_wrapped blank decoded

theorem getLast?_rowLine (row : List Char) (last : Bool) : (rowLine row last).getLast? = some '"' := by
  rw [rowLine, ← List.cons_append, List.getLast?_append]
  cases last <;> simp

theorem rowLine_trimmed (row : List Char) (last : Bool) :
    trimBlank (rowLine row last) = rowLine row last := by
  refine trimBlank_eq_self (by simp [rowLine, isBlank]) fun c final => ?_
  rw [getLast?_rowLine, Option.mem_some_iff] at final
  subst final
  decide

theorem newline_not_mem_rowLine {row : List Char} (plain : '\n' ∉ row) (last : Bool) :
    '\n' ∉ rowLine row last := by
  intro member
  simp only [rowLine, toList_escapeRow, List.mem_cons, List.mem_append, List.mem_flatMap] at member
  rcases member with quote | ⟨c, inside, escaped⟩ | closing
  · exact absurd quote (by decide)
  · split at escaped
    · simp at escaped
    · split at escaped
      · simp at escaped
      · simp only [List.mem_singleton] at escaped
        exact plain (escaped ▸ inside)
  · cases last <;> simp at closing

/-- The lines of a message's quoted rows: every row but the last ends in an escaped newline. -/
def rowLines : List (List Char) → List (List Char)
  | [] => []
  | [row] => [rowLine row true]
  | row :: rows => rowLine row false :: rowLines rows

theorem rowLines_cons_cons (row next : List Char) (rows : List (List Char)) :
    rowLines (row :: next :: rows) = rowLine row false :: rowLines (next :: rows) := rfl

theorem toList_quoteRows (rows : List (List Char)) :
    (quoteRows rows).toList = (rowLines rows).flatMap (· ++ ['\n']) := by
  induction rows with
  | nil => rfl
  | cons row rows ih =>
    cases rows with
    | nil => simp [quoteRows, rowLines, rowLine]
    | cons next rest =>
      rw [rowLines_cons_cons]
      simp [quoteRows, ih, rowLine]

/-- The lines with `lead` written before the first. -/
def onFirst (lead : List Char) : List (List Char) → List (List Char)
  | [] => []
  | line :: lines => (lead ++ line) :: lines

theorem flatMap_onFirst (lead : List Char) {ls : List (List Char)} (nonempty : ls ≠ []) :
    lead ++ ls.flatMap (· ++ ['\n']) = (onFirst lead ls).flatMap (· ++ ['\n']) := by
  obtain ⟨l, ls, rfl⟩ := List.exists_cons_of_ne_nil nonempty
  simp [onFirst]

namespace ReadState

/-- A row line continues the last field with its row. -/
theorem line_rowLine (s : ReadState) (n : Nat) {field : Field}
    (last : s.draft.field = some field) (row : List Char) (final : Bool) :
    s.line n (rowLine row final) =
      .ok (s.edit fun e => e.modifyField field (· ++ String.ofList (rowText row final))) :=
  line_continued s n false (rowLine_trimmed row final) (by simp) last
    (@unquote_rowLine [] (by simp) row final)

/-- The row lines after the first row of a message continue its field with the rest of the
message. -/
theorem lines_rowLines (s : ReadState) (n : Nat) (d : Draft) (field : Field) (v : String)
    {rows : List (List Char)} (nonempty : rows ≠ []) :
    ({ s with draft := d.keyed false field v } : ReadState).lines n (rowLines rows) =
      .ok { s with draft := d.keyed false field (v ++ String.ofList (['\n'].intercalate rows)) } := by
  induction rows generalizing v n with
  | nil => exact absurd rfl nonempty
  | cons row rows ih =>
    cases rows with
    | nil =>
      rw [rowLines, ReadState.lines, line_rowLine _ n (Draft.keyed_field ..) row true]
      simp only [bind, Except.bind, ReadState.lines]
      rw [keyed_continued]
      simp [rowText]
    | cons next rest =>
      rw [rowLines_cons_cons, ReadState.lines, line_rowLine _ n (Draft.keyed_field ..) row false]
      simp only [bind, Except.bind]
      rw [keyed_continued, ih _ _ (List.cons_ne_nil next rest)]
      simp [rowText, List.intercalate_cons_cons, String.append_assoc]

/-- Row lines that each end in an escaped newline continue the last field with their rows, each
followed by a newline. -/
theorem lines_openRows (s : ReadState) (n : Nat) (d : Draft) (field : Field) (v : String)
    (rows : List String) :
    ({ s with draft := d.keyed false field v } : ReadState).lines n
        (rows.map fun row => rowLine row.toList false) =
      .ok { s with draft := d.keyed false field (v ++ String.join (rows.map (· ++ "\n"))) } := by
  induction rows generalizing v n with
  | nil => simp [ReadState.lines]
  | cons row rows ih =>
    rw [List.map_cons, ReadState.lines, line_rowLine _ n (Draft.keyed_field ..) row.toList false]
    simp only [bind, Except.bind]
    rw [keyed_continued, ih]
    simp [rowText, String.append_assoc]

/-- A keyword line whose string is one row sets the keyword's field to the row's text. -/
theorem line_keyRow (s : ReadState) (n : Nat) {kw : String} {field : Field}
    (starts : kw.toList.head? = some 'm')
    (read : ∀ m rest, readKeyword m (kw.toList ++ ' ' :: rest) = .ok (field, ' ' :: rest))
    (bounded : ∀ i, field = .str i → i ≤ maxIndex)
    (fresh : field = .context ∨ field = .id → s.draft.seenStr = false) (row : List Char)
    (final : Bool) :
    s.line n (kw.toList ++ [' '] ++ rowLine row final) =
      .ok { s with draft := s.draft.keyed false field (String.ofList (rowText row final)) } := by
  have front : (kw.toList ++ ' ' :: rowLine row final).head? = some 'm' := by
    simp [List.head?_append, starts]
  have trimmed : trimBlank (kw.toList ++ [' '] ++ rowLine row final) =
      (marker false).toList ++ (kw.toList ++ ' ' :: rowLine row final) := by
    have ends : (kw.toList ++ ' ' :: rowLine row final).getLast? = some '"' := by
      rw [List.getLast?_append_of_ne_nil _ (List.cons_ne_nil _ _), rowLine,
        List.getLast?_cons_cons, ← rowLine, getLast?_rowLine]
    have unmarked : kw.toList ++ [' '] ++ rowLine row final =
        (marker false).toList ++ (kw.toList ++ ' ' :: rowLine row final) := by
      simp [marker]
    rw [unmarked]
    refine trimBlank_marker_append false (fun c first => ?_) ends
    rw [front, Option.mem_some_iff] at first
    subst first
    decide
  rw [line_keyword s n false trimmed front]
  exact keyword_eq (read n _) (@unquote_rowLine [' '] blank_space row final) bounded fresh

/-- A keyword followed by the quoted rows of a message sets the keyword's field to the whole
message. -/
theorem lines_keyRows (s : ReadState) (n : Nat) {kw : String} {field : Field}
    (starts : kw.toList.head? = some 'm')
    (read : ∀ m rest, readKeyword m (kw.toList ++ ' ' :: rest) = .ok (field, ' ' :: rest))
    (bounded : ∀ i, field = .str i → i ≤ maxIndex)
    (fresh : field = .context ∨ field = .id → s.draft.seenStr = false)
    {rows : List (List Char)} (nonempty : rows ≠ []) :
    s.lines n (onFirst (kw.toList ++ [' ']) (rowLines rows)) =
      .ok { s with draft := s.draft.keyed false field (String.ofList (['\n'].intercalate rows)) } := by
  obtain ⟨row, rest, rfl⟩ := List.exists_cons_of_ne_nil nonempty
  cases rest with
  | nil =>
    rw [rowLines, onFirst, ReadState.lines, line_keyRow s n starts read bounded fresh row true]
    simp [ReadState.lines, rowText, bind, Except.bind]
  | cons next more =>
    rw [rowLines_cons_cons, onFirst, ReadState.lines, line_keyRow s n starts read bounded fresh row false]
    simp only [bind, Except.bind]
    rw [lines_rowLines _ _ _ _ _ (List.cons_ne_nil next more)]
    simp [rowText, List.intercalate_cons_cons, String.ofList_append, String.append_assoc]

end ReadState

end Localize.Po

namespace Localize

open Localize.Text Localize.Po

/-! ## Blocks -/

theorem rowLines_ne_nil {rows : List (List Char)} (nonempty : rows ≠ []) : rowLines rows ≠ [] := by
  obtain ⟨row, rest, rfl⟩ := List.exists_cons_of_ne_nil nonempty
  cases rest <;> simp [rowLines]

/-- The entry a store block stands for: the occurrence's position as its reference, its context
when it has one, its singular and plural, and empty strings. -/
def Occurrence.entry (o : Occurrence) : Entry where
  references := [o.position]
  msgctxt := if o.context.isEmpty then none else some o.context
  msgid := o.singular
  msgidPlural := if o.plural.isEmpty then none else some o.plural
  msgstr := if o.plural.isEmpty then [""] else ["", ""]

/-- The entry a store block reads as: the entry of its occurrence, with the words of its
position as references. -/
def Occurrence.readEntry (o : Occurrence) : Entry :=
  { o.entry with references := o.position.blankWords }

theorem blankWords_of_word {w : String} (word : IsWord w) : w.blankWords = [w] := by
  have spaced := words_spaced [w.toList] (by simp only [List.mem_singleton, forall_eq]; exact word)
  simp only [List.flatMap_cons, List.flatMap_nil, List.append_nil,
    words_blank_cons (show isBlank ' ' = true by decide)] at spaced
  simp [String.blankWords, spaced]

theorem newline_not_mem_of_word {w : String} (word : IsWord w) : '\n' ∉ w.toList :=
  fun inside => absurd (word.2 _ inside) (by decide)

/-- A block whose position is a word reads as the entry of its occurrence. -/
theorem Occurrence.readEntry_of_word {o : Occurrence} (word : IsWord o.position) :
    o.readEntry = o.entry := by
  rw [Occurrence.readEntry, blankWords_of_word word]
  rfl

/-- The lines of an occurrence's block after the empty line that opens it. -/
def Occurrence.blockLines (o : Occurrence) : List (List Char) :=
  ("#: " ++ o.position).toList ::
    ((if o.context.isEmpty then [] else ["msgctxt ".toList ++ rowLine o.context.toList true]) ++
      onFirst "msgid ".toList (rowLines (o.singular.toList.splitOn '\n')) ++
      if o.plural.isEmpty then ["msgstr \"\"".toList]
      else onFirst "msgid_plural ".toList (rowLines (o.plural.toList.splitOn '\n')) ++
        ["msgstr[0] \"\"".toList, "msgstr[1] \"\"".toList])

theorem toList_quotedRows (t : String) (lead rest : List Char) :
    lead ++ ((quotedRows t).toList ++ rest) =
      (onFirst lead (rowLines (t.toList.splitOn '\n'))).flatMap (· ++ ['\n']) ++ rest := by
  rw [quotedRows, toList_quoteRows, ← List.append_assoc,
    flatMap_onFirst _ (rowLines_ne_nil (List.splitOn_ne_nil _ _))]

theorem toList_block (o : Occurrence) :
    o.block.toList = ([] :: o.blockLines).flatMap (· ++ ['\n']) := by
  simp only [Occurrence.block, Occurrence.blockLines, String.toList_append, List.append_assoc,
    toList_quotedRows, List.flatMap_cons, List.flatMap_append]
  have opening : "\n#: ".toList = ['\n'] ++ "#: ".toList := rfl
  have context : (if o.context.isEmpty = true then ""
      else "msgctxt \"" ++ escapeRow o.context ++ "\"\n").toList =
      (if o.context.isEmpty = true then []
        else ["msgctxt ".toList ++ rowLine o.context.toList true]).flatMap (· ++ ['\n']) := by
    split <;> simp [rowLine]
  have strings : (if o.plural.isEmpty = true then "msgstr \"\"\n"
      else "msgid_plural " ++ quotedRows o.plural ++ "msgstr[0] \"\"\nmsgstr[1] \"\"\n").toList =
      (if o.plural.isEmpty = true then ["msgstr \"\"".toList]
        else onFirst "msgid_plural ".toList (rowLines (o.plural.toList.splitOn '\n')) ++
          ["msgstr[0] \"\"".toList, "msgstr[1] \"\"".toList]).flatMap (· ++ ['\n']) := by
    split
    · rfl
    · rw [String.toList_append, String.toList_append, List.append_assoc, toList_quotedRows,
        List.flatMap_append]
      rfl
  rw [opening, context, strings]
  simp only [List.nil_append, List.append_assoc]
  rfl

namespace Po.ReadState

/-- A reference line reads as the words of the text after its marker, from a state that has
seen no string. -/
theorem line_positionLine (s : ReadState) (n : Nat) (position : String)
    (fresh : s.draft.seenStr = false) :
    s.line n ("#: " ++ position).toList =
      .ok (s.edit fun e => { e with references := e.references ++ position.blankWords }) := by
  have trimmed : trimBlank ("#: " ++ position).toList =
      '#' :: ':' :: dropBlankEnd (' ' :: position.toList) := by
    rw [String.toList_append, show "#: ".toList = ['#', ':', ' '] from rfl, trimBlank,
      List.cons_append, dropBlank_cons_of_not_blank (by decide),
      dropBlankEnd_cons_of_solid (by decide), List.cons_append,
      dropBlankEnd_cons_of_solid (by decide)]
    rfl
  rw [line_comment s n trimmed (by simp)]
  simp [ReadState.comment, fresh, words_dropBlankEnd,
    words_blank_cons (show isBlank ' ' = true by decide), String.blankWords]

/-- The context line of a block, when the occurrence has a context. -/
theorem lines_contextLine (s : ReadState) (n : Nat) (fresh : s.draft.seenStr = false)
    (c : String) :
    s.lines n (if c.isEmpty then [] else ["msgctxt ".toList ++ rowLine c.toList true]) =
      .ok { s with draft := if c.isEmpty then s.draft else s.draft.keyed false .context c } := by
  by_cases empty : c.isEmpty
  · simp [empty, ReadState.lines]
  · have text : "msgctxt ".toList ++ rowLine c.toList true =
        "msgctxt".toList ++ [' '] ++ rowLine c.toList true := rfl
    simp only [empty, Bool.false_eq_true, if_false, ReadState.lines, text]
    rw [line_keyRow s n rfl (fun m rest => readKeyword_msgctxt m _) (by simp) (fun _ => fresh)]
    simp [rowText, bind, Except.bind]

/-- The `msgid` rows of a block set the id to the occurrence's singular. -/
theorem lines_idRows (s : ReadState) (n : Nat) (fresh : s.draft.seenStr = false) (t : String) :
    s.lines n (onFirst "msgid ".toList (rowLines (t.toList.splitOn '\n'))) =
      .ok { s with draft := s.draft.keyed false .id t } := by
  have read := @lines_keyRows s n "msgid" .id rfl (fun m rest => readKeyword_msgid m rest)
    (by simp) (fun _ => fresh) _ (List.splitOn_ne_nil '\n' t.toList)
  rwa [List.intercalate_splitOn, String.ofList_toList] at read

/-- The string lines of a block: an empty `msgstr` for a singular occurrence, or the rows of its
plural and two empty forms. -/
theorem lines_stringRows (s : ReadState) (n : Nat) (o : Occurrence)
    (singular : s.draft.entry.msgidPlural = none) (empty : s.draft.entry.msgstr = []) :
    ∃ d : Draft, s.lines n (if o.plural.isEmpty then ["msgstr \"\"".toList]
        else onFirst "msgid_plural ".toList (rowLines (o.plural.toList.splitOn '\n')) ++
          ["msgstr[0] \"\"".toList, "msgstr[1] \"\"".toList]) = .ok { s with draft := d } ∧
      d.entry = { s.draft.entry with msgidPlural := o.entry.msgidPlural, msgstr := o.entry.msgstr } ∧
      d.seenId = s.draft.seenId := by
  by_cases plain : o.plural.isEmpty
  · have text : ["msgstr \"\"".toList] = (fieldLines (marker false) "msgstr" "").map String.toList :=
      rfl
    have read := lines_fieldLines s n false "" rfl (fun m rest => readKeyword_msgstr m rest)
      (by simp) (by simp)
    refine ⟨_, by rw [if_pos plain, text, read], ?_, by simp⟩
    simp [Draft.keyed, Entry.modifyField, Occurrence.entry, plain, singular, empty, setPadded]
  · have named := @lines_keyRows s n "msgid_plural" .idPlural rfl
      (fun m rest => readKeyword_msgid_plural m _) (by simp) (by simp) _
      (List.splitOn_ne_nil '\n' o.plural.toList)
    have lead : "msgid_plural ".toList = "msgid_plural".toList ++ [' '] := rfl
    rw [List.intercalate_splitOn, String.ofList_toList, ← lead] at named
    set t : ReadState := { s with draft := s.draft.keyed false .idPlural o.plural }
    obtain ⟨d, forms, entry, seen⟩ := lines_forms false ["", ""] t
      (n + (onFirst "msgid_plural ".toList (rowLines (o.plural.toList.splitOn '\n'))).length) 0
      (by decide) (by simp [t, Draft.keyed, Entry.modifyField, empty]) (by simp)
    refine ⟨d, ?_, ?_, ?_⟩
    · rw [if_neg plain, lines_append, named]
      -- the two empty forms are the lines the printer writes for them
      have text : (fieldLines (marker false) ("msgstr[" ++ toString 0 ++ "]") "" ++
          fieldLines (marker false) ("msgstr[" ++ toString (0 + 1) ++ "]") "").map String.toList =
          ["msgstr[0] \"\"".toList, "msgstr[1] \"\"".toList] := rfl
      simp only [List.zipIdx_cons, List.zipIdx_nil, List.map_cons, List.map_nil, List.flatten_cons,
        List.flatten_nil, List.append_nil, text] at forms
      simp only [bind, Except.bind]
      exact forms
    · rw [entry]
      simp only [t, Draft.keyed, Bool.false_eq_true, if_false, Entry.modifyField, empty,
        Occurrence.entry, plain, List.nil_append]
    · simp [seen, t]

/-- A block as the store writes it, after the empty line that opens it, reads as the entry of
its occurrence, from a state between entries. -/
theorem lines_blockLines (ds : List Entry) (n : Nat) (o : Occurrence) :
    ∃ d : Draft, ({ done := ds } : ReadState).lines n o.blockLines =
      .ok { done := ds, draft := d } ∧ d.entry = o.readEntry ∧ d.seenId = true := by
  set s₁ : ReadState :=
    { done := ds, draft := { entry := { references := o.position.blankWords } } }
  have referenced : ({ done := ds } : ReadState).line n ("#: " ++ o.position).toList = .ok s₁ := by
    rw [line_positionLine _ n o.position rfl]
    rfl
  set s₂ : ReadState := { s₁ with draft :=
    if o.context.isEmpty then s₁.draft else s₁.draft.keyed false .context o.context }
  have fresh : s₂.draft.seenStr = false := by
    by_cases empty : o.context.isEmpty <;> simp [s₂, s₁, empty, Draft.keyed]
  set s₃ : ReadState := { s₂ with draft := s₂.draft.keyed false .id o.singular }
  obtain ⟨d, strings, entry, seen⟩ := lines_stringRows s₃
    (n + 1 + (if o.context.isEmpty then [] else ["msgctxt ".toList ++ rowLine o.context.toList true]).length +
      (onFirst "msgid ".toList (rowLines (o.singular.toList.splitOn '\n'))).length) o
    (by by_cases empty : o.context.isEmpty <;> simp [s₃, s₂, s₁, empty, Draft.keyed, Entry.modifyField])
    (by by_cases empty : o.context.isEmpty <;> simp [s₃, s₂, s₁, empty, Draft.keyed, Entry.modifyField])
  refine ⟨d, ?_, ?_, ?_⟩
  · rw [Occurrence.blockLines, ReadState.lines, referenced]
    simp only [bind, Except.bind]
    rw [lines_append, lines_append, lines_contextLine s₁ _ rfl]
    simp only [bind, Except.bind]
    rw [lines_idRows s₂ _ fresh]
    simp only [List.length_append, ← Nat.add_assoc]
    exact strings
  · rw [entry]
    by_cases empty : o.context.isEmpty <;>
      simp [s₃, s₂, s₁, empty, Draft.keyed, Entry.modifyField, Occurrence.readEntry,
        Occurrence.entry]
  · simp [seen, s₃]

end Po.ReadState

/-! ## The header -/

/-- The header entry of every catalog the store writes. -/
def headerEntry (language : String) : Entry where
  comments := headerComments ++ [""]
  flags := ["fuzzy"]
  msgstr := [String.join ((headerFields language).map (· ++ "\n"))]

theorem headerComments_fit : ∀ c ∈ headerComments ++ [""], CommentFits c := by
  simp [headerComments, CommentFits, isBlank]

theorem headerFields_plain {language : String} (plain : '\n' ∉ language.toList) :
    ∀ field ∈ headerFields language, '\n' ∉ field.toList := by
  intro field member
  simp only [headerFields, List.mem_cons, List.not_mem_nil, or_false] at member
  rcases member with rfl | rfl | rfl | rfl | rfl | rfl | rfl | rfl | rfl | rfl | rfl
  all_goals simp [plain]

theorem toList_canonicalHeader (language : String) :
    (canonicalHeader language).toList =
      ((canonicalHeaderLines language).map String.toList).flatMap (· ++ ['\n']) := by
  simp [canonicalHeader, String.toList_join, List.flatMap_map]

/-- The header's lines: its comments, its flag, an empty id and an empty string continued by its
rows, each row written as the store writes every row. -/
theorem canonicalHeaderLines_eq (language : String) :
    (canonicalHeaderLines language).map String.toList =
      ((headerEntry language).comments.map fun c => if c.isEmpty then "#" else "# " ++ c).map
          String.toList ++
        ["#, fuzzy".toList, "msgid \"\"".toList, "msgstr \"\"".toList] ++
        (headerFields language).map fun field => rowLine field.toList false := by
  have comments : headerComments.map (fun c => if c.isEmpty then "#" else "# " ++ c) =
      headerComments.map ("# " ++ ·) :=
    List.map_congr_left fun c member => by
      have nonempty : c.isEmpty = false := by
        revert c
        simp only [headerComments]
        decide
      simp [nonempty]
  have rows : ∀ field : String,
      ("\"" ++ escapeRow field ++ "\\n\"").toList = rowLine field.toList false := by
    intro field
    simp [rowLine]
  simp only [canonicalHeaderLines, headerEntry, List.map_append, comments, List.map_map,
    Function.comp_def, rows, List.map_cons, List.map_nil, List.append_assoc, List.cons_append,
    List.nil_append]
  rfl

namespace Po.ReadState

/-- The store's header reads as its header entry: the comments and the flag fill an empty draft,
the empty id and string open it, and the rows continue the string. -/
theorem lines_header (language : String) :
    ∃ d : Draft, ({} : ReadState).lines 1 ((canonicalHeaderLines language).map String.toList) =
      .ok { draft := d } ∧ d.entry = headerEntry language ∧ d.seenId = true := by
  set notes : Entry := { comments := (headerEntry language).comments, flags := ["fuzzy"] }
  have pieces : ["#, fuzzy".toList, "msgid \"\"".toList, "msgstr \"\"".toList] =
      (if ["fuzzy"].isEmpty then [] else ["#, " ++ ", ".intercalate ["fuzzy"]]).map String.toList ++
        ((fieldLines (marker false) "msgid" "").map String.toList ++
          (fieldLines (marker false) "msgstr" "").map String.toList) := rfl
  have noted : ({} : ReadState).lines 1
      ((((headerEntry language).comments.map fun c => if c.isEmpty then "#" else "# " ++ c).map
          String.toList) ++
        (if ["fuzzy"].isEmpty then [] else ["#, " ++ ", ".intercalate ["fuzzy"]]).map String.toList) =
      .ok { draft := { entry := notes } } := by
    rw [lines_append, @lines_comments {} 1 (headerEntry language).comments headerComments_fit rfl]
    simp only [bind, Except.bind]
    rw [lines_flags _ _ (by simp [IsFlag, TrimmedLine, SolidEnds]; decide) rfl]
    rfl
  set identified : Draft := ({ entry := notes } : Draft).keyed false .id ""
  have keyed : ∀ m, ({ draft := { entry := notes } } : ReadState).lines m
      ((fieldLines (marker false) "msgid" "").map String.toList ++
        (fieldLines (marker false) "msgstr" "").map String.toList) =
        .ok { draft := identified.keyed false (.str 0) "" } := by
    intro m
    rw [lines_append, lines_fieldLines _ _ false "" rfl (fun m rest => readKeyword_msgid m rest)
      (by simp) (fun _ => rfl)]
    simp only [bind, Except.bind]
    exact lines_fieldLines _ _ false "" rfl (fun m rest => readKeyword_msgstr m rest) (by simp)
      (by simp)
  refine ⟨identified.keyed false (.str 0) (String.join ((headerFields language).map (· ++ "\n"))),
    ?_, ?_, rfl⟩
  · rw [canonicalHeaderLines_eq, pieces, ← List.append_assoc,
      lines_append_of_ok ((lines_append_of_ok noted _).trans (keyed _))]
    refine (lines_openRows {} _ _ (.str 0) "" (headerFields language)).trans ?_
    rw [String.empty_append]
  · simp [identified, notes, Draft.keyed, Entry.modifyField, setPadded, headerEntry]

end Po.ReadState

/-! ## No line of a store's text holds a newline -/

theorem newline_not_mem_rowLines {rows : List (List Char)} (plain : ∀ row ∈ rows, '\n' ∉ row) :
    ∀ l ∈ rowLines rows, '\n' ∉ l := by
  induction rows with
  | nil => simp [rowLines]
  | cons row rows ih =>
    have first := plain row List.mem_cons_self
    have rest := ih fun r member => plain r (List.mem_cons_of_mem row member)
    cases rows with
    | nil => simpa [rowLines] using newline_not_mem_rowLine first true
    | cons next more =>
      rw [rowLines_cons_cons]
      intro l member
      rcases List.mem_cons.mp member with rfl | later
      · exact newline_not_mem_rowLine first false
      · exact rest l later

theorem newline_not_mem_onFirst {lead : List Char} (plain : '\n' ∉ lead) {ls : List (List Char)}
    (lines : ∀ l ∈ ls, '\n' ∉ l) : ∀ l ∈ onFirst lead ls, '\n' ∉ l := by
  cases ls with
  | nil => simp [onFirst]
  | cons first rest =>
    intro l member
    rcases List.mem_cons.mp member with rfl | later
    · simpa [plain] using lines first List.mem_cons_self
    · exact lines l (List.mem_cons_of_mem first later)

/-- The rows of a message split at its newlines hold none. -/
theorem newline_not_mem_messageRows (t : String) (lead : List Char) (plain : '\n' ∉ lead) :
    ∀ l ∈ onFirst lead (rowLines (t.toList.splitOn '\n')), '\n' ∉ l :=
  newline_not_mem_onFirst plain <| newline_not_mem_rowLines fun _ piece inside =>
    (mem_of_mem_splitOn piece inside).2 rfl

theorem newline_not_mem_blockLines {o : Occurrence} (position : '\n' ∉ o.position.toList)
    (plain : '\n' ∉ o.context.toList) : ∀ l ∈ o.blockLines, '\n' ∉ l := by
  intro l member
  simp only [Occurrence.blockLines, List.mem_cons, List.mem_append] at member
  rcases member with rfl | (context | singular) | strings
  · simp only [String.toList_append, List.mem_append, not_or]
    exact ⟨by decide, position⟩
  · split at context
    · simp at context
    · rw [List.mem_singleton] at context
      subst context
      simpa using newline_not_mem_rowLine plain true
  · exact newline_not_mem_messageRows _ _ (by decide) l singular
  · split at strings
    · simp only [List.mem_singleton] at strings
      subst strings
      decide
    · rcases List.mem_append.mp strings with plural | forms
      · exact newline_not_mem_messageRows _ _ (by decide) l plural
      · simp only [List.mem_cons, List.not_mem_nil, or_false] at forms
        rcases forms with rfl | rfl <;> decide

theorem newline_not_mem_canonicalHeaderLines {language : String}
    (plain : '\n' ∉ language.toList) :
    ∀ l ∈ (canonicalHeaderLines language).map String.toList, '\n' ∉ l := by
  intro l member
  simp only [canonicalHeaderLines, List.map_append, List.mem_append, List.mem_map] at member
  rcases member with (⟨_, ⟨c, comment, rfl⟩, rfl⟩ | fixed) | ⟨_, ⟨field, listed, rfl⟩, rfl⟩
  · have fit := (headerComments_fit c (List.mem_append_left _ comment)).1
    simp only [String.toList_append, List.mem_append, not_or]
    exact ⟨by decide, fit⟩
  · obtain ⟨line, listed, rfl⟩ := fixed
    revert line
    decide
  · rw [show ("\"" ++ escapeRow field ++ "\\n\"").toList = rowLine field.toList false by
      simp [rowLine]]
    exact newline_not_mem_rowLine (headerFields_plain plain field listed) false

/-! ## The store's text reads as its header and one entry per block -/

/-- The occurrences that a domain's catalog text has a block for, in the order of the blocks. -/
def Store.blockOccurrences (s : Store) (domain : String) : List Occurrence :=
  ((s.occurrencesOf domain).mergeSort Occurrence.catalogOrder).filter (!·.singular.isEmpty)

theorem Store.toList_renderDomain (s : Store) (domain language : String) :
    (s.renderDomain domain language).toList =
      ((canonicalHeaderLines language).map String.toList ++
        (s.blockOccurrences domain).flatMap fun o => [] :: o.blockLines).flatMap (· ++ ['\n']) := by
  rw [List.flatMap_append, ← toList_canonicalHeader, List.flatMap_assoc]
  simp only [Store.renderDomain, String.toList_append, String.toList_join, List.flatMap_map,
    toList_block]
  rfl

theorem Occurrence.entry_msgstr_ne_nil (o : Occurrence) : o.entry.msgstr ≠ [] := by
  by_cases plain : o.plural.isEmpty <;> simp [Occurrence.entry, plain]

namespace Po.ReadState

/-- Blocks after an entry read in full read as the entries of their occurrences, in order. -/
theorem lines_blocks (ds : List Entry) {d : Draft} (seen : d.seenId = true)
    (forms : d.entry.msgstr ≠ []) (n : Nat) (os : List Occurrence) :
    ∃ s : ReadState, ({ done := ds, draft := d } : ReadState).lines n
        (os.flatMap fun o => [] :: o.blockLines) = .ok s ∧
      s.finish = { done := (os.map Occurrence.readEntry).reverse ++ d.entry :: ds } := by
  induction os generalizing ds d n with
  | nil => exact ⟨_, rfl, by simpa using finish_entry ds seen rfl forms⟩
  | cons o os ih =>
    obtain ⟨d', block, entry, seen'⟩ := lines_blockLines (d.entry :: ds) (n + 1) o
    obtain ⟨s, rest, finished⟩ := ih (d.entry :: ds) seen'
      (by rw [entry]; exact o.entry_msgstr_ne_nil) (n + 1 + o.blockLines.length)
    refine ⟨s, ?_, by simpa [entry] using finished⟩
    rw [List.flatMap_cons, List.cons_append, ReadState.lines,
      line_blank _ _ (show trimBlank [] = [] from rfl), finish_entry ds seen rfl forms]
    simp only [bind, Except.bind]
    rw [lines_append, block]
    exact rest

end Po.ReadState

/-- The fixed header reads as the header entry alone. -/
theorem parse_canonicalHeader {language : String} (plain : '\n' ∉ language.toList) :
    Catalog.parse (canonicalHeader language) = .ok { entries := [headerEntry language] } := by
  obtain ⟨d, read, entry, seen⟩ := Po.ReadState.lines_header language
  rw [Catalog.parse, toList_canonicalHeader,
    lines_flatMap _ (newline_not_mem_canonicalHeaderLines plain), ReadState.lines_stripReturn, read]
  simp only [bind, Except.bind, pure, Except.pure,
    Po.ReadState.finish_entry [] seen entry (by simp [headerEntry]), List.reverse_singleton]

theorem Store.mem_of_mem_blockOccurrences {s : Store} {domain : String} {o : Occurrence}
    (member : o ∈ s.blockOccurrences domain) : o ∈ s.occurrencesOf domain :=
  (List.mem_mergeSort).mp (List.mem_filter.mp member).1

/-- A domain's catalog text reads as the header entry followed by the entry each block reads
as, as long as the language, the positions and the contexts hold no newline. -/
theorem Store.parse_renderDomain_plain (s : Store) (domain : String) {language : String}
    (plain : '\n' ∉ language.toList)
    (positions : ∀ o ∈ s.occurrencesOf domain, '\n' ∉ o.position.toList)
    (contexts : ∀ o ∈ s.occurrencesOf domain, '\n' ∉ o.context.toList) :
    Catalog.parse (s.renderDomain domain language) =
      .ok { entries :=
        headerEntry language :: (s.blockOccurrences domain).map Occurrence.readEntry } := by
  have kept : ∀ o ∈ s.blockOccurrences domain, o ∈ s.occurrencesOf domain := fun o member =>
    Store.mem_of_mem_blockOccurrences member
  have plainLines : ∀ l ∈ (canonicalHeaderLines language).map String.toList ++
      (s.blockOccurrences domain).flatMap (fun o => [] :: o.blockLines), '\n' ∉ l := by
    intro l member
    rcases List.mem_append.mp member with header | blocks
    · exact newline_not_mem_canonicalHeaderLines plain l header
    · obtain ⟨o, block, inside⟩ := List.mem_flatMap.mp blocks
      rcases List.mem_cons.mp inside with rfl | line
      · simp
      · exact newline_not_mem_blockLines (positions o (kept o block)) (contexts o (kept o block))
          l line
  obtain ⟨d, header, entry, seen⟩ := Po.ReadState.lines_header language
  obtain ⟨r, blocks, finished⟩ := Po.ReadState.lines_blocks [] seen
    (by rw [entry]; simp [headerEntry]) (1 + ((canonicalHeaderLines language).map String.toList).length)
    (s.blockOccurrences domain)
  rw [Catalog.parse, Store.toList_renderDomain, lines_flatMap _ plainLines,
    ReadState.lines_stripReturn, ReadState.lines_append, header]
  simp only [bind, Except.bind]
  rw [blocks]
  simp [pure, Except.pure, finished, entry]

/-- A domain's catalog text reads as the header entry followed by the entry of each block, as
long as the language and the contexts hold no newline and every position is a word. -/
theorem Store.parse_renderDomain (s : Store) (domain : String) {language : String}
    (plain : '\n' ∉ language.toList)
    (words : ∀ o ∈ s.occurrencesOf domain, IsWord o.position)
    (contexts : ∀ o ∈ s.occurrencesOf domain, '\n' ∉ o.context.toList) :
    Catalog.parse (s.renderDomain domain language) =
      .ok { entries := headerEntry language :: (s.blockOccurrences domain).map Occurrence.entry } := by
  have read : (s.blockOccurrences domain).map Occurrence.readEntry =
      (s.blockOccurrences domain).map Occurrence.entry :=
    List.map_congr_left fun o member =>
      Occurrence.readEntry_of_word (words o (Store.mem_of_mem_blockOccurrences member))
  rw [s.parse_renderDomain_plain domain plain
    (fun o member => newline_not_mem_of_word (words o member)) contexts, read]

end Localize
