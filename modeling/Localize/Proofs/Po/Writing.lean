import Mathlib.Data.List.Induction
import Localize.Proofs.Po.References

/-! # Reading what the printer writes

The printer and the reader agree entry by entry: the lines `Entry.lines` writes for an entry that
the printer writes in full (`Entry.Writable`) take a reader that sits between entries to a draft
that holds exactly that entry (`ReadState.lines_entry`). The proof follows the lines in the order
they are written. Each kind of comment line adds to one list of the draft
(`ReadState.lines_adding`, with a step lemma for each kind), and the greedy filling of reference
lines keeps the references in order (`referenceLines_eq`). A field written on one line or over
several sets the field to its value (`ReadState.lines_fieldLines`), and the `msgstr[i]` lines
append the forms one by one (`ReadState.lines_forms`). No line the printer writes holds a
newline (`newline_not_mem_lines`), so cutting the printed text into lines finds them again.
-/

namespace Localize.Po

open Localize.Text

/-- An entry that the printer writes in full: it fits, an obsolete entry has no references (the
printer drops them) and a singular entry has exactly one string (the printer writes only the
first). -/
structure Entry.Writable (e : Entry) : Prop extends e.Fits where
  unreferenced : e.obsolete = true → e.references = []
  single : e.msgidPlural = none → e.msgstr.length = 1

/-! ## Comment lines after trimming -/

/-- A line that starts with `#` starts with a character that is not blank. -/
theorem solid_head_hash (cs : List Char) : ∀ c ∈ ('#' :: cs).head?, isBlank c = false := by
  intro c member
  rw [List.head?_cons, Option.mem_some_iff] at member
  subst member
  decide

/-- A comment line is its own trimmed text when its mark is solid and it ends on a solid
character. -/
theorem trimBlank_hash_mark {m : Char} (solid : isBlank m = false) {rest : List Char}
    (last : ∀ c ∈ rest.getLast?, isBlank c = false) :
    trimBlank ('#' :: m :: rest) = '#' :: m :: rest := by
  refine trimBlank_eq_self (solid_head_hash _) fun c lastOf => ?_
  rw [List.getLast?_cons_cons] at lastOf
  cases rest with
  | nil =>
    rw [List.getLast?_singleton, Option.mem_some_iff] at lastOf
    subst lastOf
    exact solid
  | cons d ds =>
    rw [List.getLast?_cons_cons] at lastOf
    exact last c lastOf

/-- A marked comment line of a text with solid ends reads back as that text. -/
theorem trimBlank_marked {m : Char} (solid : isBlank m = false) {x : List Char}
    (ends : SolidEnds x) :
    ∃ r, trimBlank ('#' :: m :: ' ' :: x) = '#' :: m :: r ∧ trimBlank r = x := by
  have hash : isBlank '#' = false := by decide
  have space : isBlank ' ' = true := by decide
  cases x with
  | nil =>
    refine ⟨[], ?_, rfl⟩
    simp [trimBlank, dropBlankEnd, dropBlank, hash, space, solid]
  | cons c cs =>
    refine ⟨' ' :: c :: cs, ?_, ?_⟩
    · refine trimBlank_hash_mark solid fun z last => ends.2 z ?_
      rwa [List.getLast?_cons_cons] at last
    · rw [show ' ' :: c :: cs = [' '] ++ c :: cs from rfl,
        trimBlank_blank_append blank_space, trimBlank_eq_self ends.1 ends.2]

/-! ## The draft after keyword lines -/

@[simp] theorem Draft.keyed_field (d : Draft) (obs : Bool) (field : Field) (v : String) :
    (d.keyed obs field v).field = some field := rfl

@[simp] theorem Draft.keyed_seenId (d : Draft) (obs : Bool) (field : Field) (v : String) :
    (d.keyed obs field v).seenId = match field with
      | .id => true
      | _ => d.seenId := rfl

/-- Once the entry is marked obsolete, a keyword line only sets its field. -/
theorem Draft.keyed_entry {d : Draft} {obs : Bool} (marked : obs = true → d.entry.obsolete = true)
    (field : Field) (v : String) :
    (d.keyed obs field v).entry = d.entry.modifyField field fun _ => v := by
  cases obs with
  | false => rfl
  | true =>
    have unchanged : { d.entry with obsolete := true } = d.entry := by
      rw [← marked rfl]
    simp only [Draft.keyed, if_true, unchanged]

/-! ## The parts of an entry's lines -/

/-- The comment lines of an entry, which `Entry.lines` writes first. -/
def Entry.noteLines (e : Entry) : List String :=
  e.comments.map (fun c => if c.isEmpty then "#" else "# " ++ c) ++ e.extracted.map ("#. " ++ ·) ++
    (if e.obsolete then [] else referenceLines e.references) ++
    (if e.flags.isEmpty then [] else ["#, " ++ ", ".intercalate e.flags]) ++
    e.previous.map ("#| " ++ ·)

/-- The lines of an entry's context. -/
def Entry.contextLines (e : Entry) : List String :=
  match e.msgctxt with
  | some c => fieldLines (marker e.obsolete) "msgctxt" c
  | none => []

/-- The lines of an entry's plural id and strings. -/
def Entry.stringLines (e : Entry) : List String :=
  match e.msgidPlural with
  | some plural =>
    fieldLines (marker e.obsolete) "msgid_plural" plural ++
      (e.msgstr.zipIdx.map fun (s, i) =>
        fieldLines (marker e.obsolete) ("msgstr[" ++ toString i ++ "]") s).flatten
  | none => fieldLines (marker e.obsolete) "msgstr" e.firstString

theorem Entry.lines_eq (e : Entry) :
    e.lines = e.noteLines ++
      ((e.contextLines ++ fieldLines (marker e.obsolete) "msgid" e.msgid) ++ e.stringLines) := by
  rw [← List.append_assoc, ← List.append_assoc]
  rfl

namespace ReadState

/-! ## One comment line -/

@[simp] theorem edit_draft_seenStr (s : ReadState) (f : Entry → Entry) :
    (s.edit f).draft.seenStr = s.draft.seenStr := rfl

@[simp] theorem edit_draft_field (s : ReadState) (f : Entry → Entry) :
    (s.edit f).draft.field = s.draft.field := rfl

@[simp] theorem edit_edit (s : ReadState) (f g : Entry → Entry) :
    (s.edit f).edit g = s.edit (g ∘ f) := rfl

/-- Lines that each add to one list of the entry being read, from a state that has seen no
string, add to it in turn. -/
theorem lines_adding {α : Type} (add : List String → Entry → Entry)
    (add_add : ∀ xs ys e, add ys (add xs e) = add (xs ++ ys) e) (add_nil : ∀ e, add [] e = e)
    (text : α → List Char) (read : α → List String) (as : List α)
    (step : ∀ a ∈ as, ∀ (s : ReadState) n, s.draft.seenStr = false →
      s.line n (text a) = .ok (s.edit (add (read a))))
    (s : ReadState) (n : Nat) (fresh : s.draft.seenStr = false) :
    s.lines n (as.map text) = .ok (s.edit (add (as.flatMap read))) := by
  induction as generalizing s n with
  | nil =>
    have unchanged : add [] = id := funext add_nil
    simp [ReadState.lines, unchanged, ReadState.edit]
  | cons a as ih =>
    have first := step a List.mem_cons_self s n fresh
    have rest := ih (fun b member => step b (List.mem_cons_of_mem a member)) (s.edit (add (read a)))
      (n + 1) (by simpa using fresh)
    have joined : add (as.flatMap read) ∘ add (read a) = add ((a :: as).flatMap read) :=
      funext fun e => by simp [add_add]
    simp only [List.map_cons, ReadState.lines, first, bind, Except.bind, rest, edit_edit, joined]

/-- A translator comment line, from a state that has seen no string. -/
theorem line_translatorComment (s : ReadState) (n : Nat) {c : String} (fit : CommentFits c)
    (fresh : s.draft.seenStr = false) :
    s.line n (if c.isEmpty then "#" else "# " ++ c).toList =
      .ok (s.edit fun e => { e with comments := e.comments ++ [c] }) := by
  by_cases empty : c.isEmpty
  · have blank : c = "" := by simpa using empty
    subst blank
    rw [if_pos empty, show "#".toList = ['#'] from rfl,
      line_comment s n (show trimBlank ['#'] = ['#'] from rfl) (by simp)]
    simp [ReadState.comment, fresh]
  · have nonempty : c.toList ≠ [] := by simpa using empty
    have trimmed : trimBlank ('#' :: ' ' :: c.toList) = '#' :: ' ' :: c.toList := by
      refine trimBlank_eq_self (solid_head_hash _) fun x last => fit.2 x ?_
      rwa [show '#' :: ' ' :: c.toList = ['#', ' '] ++ c.toList from rfl,
        List.getLast?_append_of_ne_nil _ nonempty] at last
    rw [if_neg empty, String.toList_append]
    rw [line_comment s n (by simpa using trimmed) (by simp)]
    simp [ReadState.comment, fresh]

/-- An extracted comment line, from a state that has seen no string. -/
theorem line_extracted (s : ReadState) (n : Nat) {x : String} (fit : TrimmedLine x)
    (fresh : s.draft.seenStr = false) :
    s.line n ("#. " ++ x).toList =
      .ok (s.edit fun e => { e with extracted := e.extracted ++ [x] }) := by
  obtain ⟨r, trimmed, back⟩ := trimBlank_marked (m := '.') (by decide) fit.2
  rw [String.toList_append, show "#. ".toList ++ x.toList = '#' :: '.' :: ' ' :: x.toList from rfl]
  rw [line_comment s n trimmed (by simp)]
  simp [ReadState.comment, fresh, back]

/-- A previous-message line, from a state that has seen no string. -/
theorem line_previous (s : ReadState) (n : Nat) {p : String} (fit : TrimmedLine p)
    (fresh : s.draft.seenStr = false) :
    s.line n ("#| " ++ p).toList =
      .ok (s.edit fun e => { e with previous := e.previous ++ [p] }) := by
  obtain ⟨r, trimmed, back⟩ := trimBlank_marked (m := '|') (by decide) fit.2
  rw [String.toList_append, show "#| ".toList ++ p.toList = '#' :: '|' :: ' ' :: p.toList from rfl]
  rw [line_comment s n trimmed (by simp)]
  simp [ReadState.comment, fresh, back]

/-- A reference line of words, from a state that has seen no string. -/
theorem line_referenceLine (s : ReadState) (n : Nat) {group : List String}
    (fit : ∀ r ∈ group, IsWord r) (fresh : s.draft.seenStr = false) :
    s.line n (referenceLine group).toList =
      .ok (s.edit fun e => { e with references := e.references ++ group }) := by
  have words : ∀ r ∈ group.map String.toList, r ≠ [] ∧ ∀ c ∈ r, isBlank c = false := by
    simpa [IsWord] using fit
  have text := toList_referenceLine group
  have trimmed : trimBlank (referenceLine group).toList = (referenceLine group).toList := by
    rw [text]
    refine trimBlank_hash_mark (by decide) fun c last => ?_
    obtain ⟨r, member, lastOf⟩ := getLast?_spaced (fun r member => (words r member).1) last
    exact (words r member).2 c (List.mem_of_getLast? lastOf)
  rw [line_comment s n (trimmed.trans text) (by simp)]
  simp [ReadState.comment, fresh, words_spaced _ words]

/-- The flags line, from a state that has seen no string. -/
theorem line_flags (s : ReadState) (n : Nat) {flags : List String}
    (fit : ∀ f ∈ flags, IsFlag f) (nonempty : flags ≠ []) (fresh : s.draft.seenStr = false) :
    s.line n ("#, " ++ ", ".intercalate flags).toList =
      .ok (s.edit fun e => { e with flags := e.flags ++ flags }) := by
  have solid : ∀ f ∈ flags.map String.toList, f ≠ [] ∧ '\n' ∉ f ∧ SolidEnds f ∧ ',' ∉ f := by
    simpa [IsFlag, TrimmedLine, and_assoc] using fit
  have spaced : (flags.map String.toList).map (' ' :: ·) ≠ [] := by simpa using nonempty
  have text : ("#, " ++ ", ".intercalate flags).toList =
      '#' :: ',' :: List.intercalate [','] ((flags.map String.toList).map (' ' :: ·)) := by
    rw [← cons_space_intercalate _ (by simpa using nonempty)]
    simp [String.toList_intercalate]
  have trimmed : trimBlank ("#, " ++ ", ".intercalate flags).toList =
      ("#, " ++ ", ".intercalate flags).toList := by
    rw [text]
    refine trimBlank_hash_mark (by decide) fun c last => ?_
    obtain ⟨f, member, lastOf⟩ := getLast?_intercalate (by simp) last
    obtain ⟨g, flag, rfl⟩ := List.mem_map.mp member
    have ends := (solid g flag).2.2.1
    obtain ⟨d, ds, split_at⟩ := List.exists_cons_of_ne_nil (solid g flag).1
    rw [split_at, List.getLast?_cons_cons, ← split_at] at lastOf
    exact ends.2 c lastOf
  have split : (List.intercalate [','] ((flags.map String.toList).map (' ' :: ·))).splitOn ',' =
      (flags.map String.toList).map (' ' :: ·) := by
    refine List.splitOn_intercalate ',' (fun f member => ?_) spaced
    obtain ⟨g, flag, rfl⟩ := List.mem_map.mp member
    simpa using (solid g flag).2.2.2
  have trimmedFlags : ((flags.map String.toList).map (' ' :: ·)).map trimBlank =
      flags.map String.toList := by
    have unspaced : ∀ f ∈ flags.map String.toList, trimBlank (' ' :: f) = f := fun f member => by
      have ends := (solid f member).2.2.1
      rw [show ' ' :: f = [' '] ++ f from rfl, trimBlank_blank_append blank_space,
        trimBlank_eq_self ends.1 ends.2]
    rw [List.map_map]
    exact (List.map_congr_left unspaced).trans (List.map_id _)
  have kept : (flags.map String.toList).filter (fun f => !f.isEmpty) = flags.map String.toList :=
    List.filter_eq_self.mpr fun f member => by simpa using (solid f member).1
  rw [line_comment s n (trimmed.trans text) (by simp)]
  simp only [ReadState.comment, fresh, Bool.false_eq_true, if_false]
  rw [split, trimmedFlags, kept]
  simp

/-! ## Each kind of comment line in turn -/

theorem lines_comments (s : ReadState) (n : Nat) {cs : List String}
    (fit : ∀ c ∈ cs, CommentFits c) (fresh : s.draft.seenStr = false) :
    s.lines n ((cs.map fun c => if c.isEmpty then "#" else "# " ++ c).map String.toList) =
      .ok (s.edit fun e => { e with comments := e.comments ++ cs }) := by
  have read := lines_adding (fun xs e => { e with comments := e.comments ++ xs }) (by simp)
    (by simp) (String.toList ∘ fun c => if c.isEmpty then "#" else "# " ++ c) (fun c => [c]) cs
    (fun c member s n fresh => by exact line_translatorComment s n (fit c member) fresh) s n fresh
  rw [List.flatMap_singleton'] at read
  rwa [List.map_map]

theorem lines_extracted (s : ReadState) (n : Nat) {xs : List String}
    (fit : ∀ x ∈ xs, TrimmedLine x) (fresh : s.draft.seenStr = false) :
    s.lines n ((xs.map ("#. " ++ ·)).map String.toList) =
      .ok (s.edit fun e => { e with extracted := e.extracted ++ xs }) := by
  have read := lines_adding (fun xs e => { e with extracted := e.extracted ++ xs }) (by simp) (by simp)
    (String.toList ∘ ("#. " ++ ·)) (fun x => [x]) xs
    (fun x member s n fresh => by exact line_extracted s n (fit x member) fresh) s n fresh
  rw [List.flatMap_singleton'] at read
  rwa [List.map_map]

theorem lines_previous (s : ReadState) (n : Nat) {ps : List String}
    (fit : ∀ p ∈ ps, TrimmedLine p) (fresh : s.draft.seenStr = false) :
    s.lines n ((ps.map ("#| " ++ ·)).map String.toList) =
      .ok (s.edit fun e => { e with previous := e.previous ++ ps }) := by
  have read := lines_adding (fun xs e => { e with previous := e.previous ++ xs }) (by simp) (by simp)
    (String.toList ∘ ("#| " ++ ·)) (fun p => [p]) ps
    (fun p member s n fresh => by exact line_previous s n (fit p member) fresh) s n fresh
  rw [List.flatMap_singleton'] at read
  rwa [List.map_map]

theorem lines_referenceLines (s : ReadState) (n : Nat) {refs : List String}
    (fit : ∀ r ∈ refs, IsWord r) (fresh : s.draft.seenStr = false) :
    s.lines n ((referenceLines refs).map String.toList) =
      .ok (s.edit fun e => { e with references := e.references ++ refs }) := by
  obtain ⟨groups, lines, flat⟩ := referenceLines_eq refs
  have words : ∀ g ∈ groups, ∀ r ∈ g, IsWord r := fun g member r word =>
    fit r (flat ▸ List.mem_flatten.mpr ⟨g, member, word⟩)
  have read := lines_adding (fun xs e => { e with references := e.references ++ xs }) (by simp)
    (by simp) (String.toList ∘ referenceLine) id groups
    (fun g member s n fresh => by exact line_referenceLine s n (words g member) fresh) s n fresh
  rw [List.flatMap_id] at read
  rwa [lines, List.map_map, ← flat]

theorem lines_flags (s : ReadState) (n : Nat) {flags : List String}
    (fit : ∀ f ∈ flags, IsFlag f) (fresh : s.draft.seenStr = false) :
    s.lines n ((if flags.isEmpty then [] else ["#, " ++ ", ".intercalate flags]).map String.toList) =
      .ok (s.edit fun e => { e with flags := e.flags ++ flags }) := by
  by_cases empty : flags.isEmpty
  · have none : flags = [] := by simpa using empty
    subst none
    simp [ReadState.lines, ReadState.edit]
  · have nonempty : flags ≠ [] := by simpa using empty
    simp only [empty, Bool.false_eq_true, if_false, List.map_singleton, ReadState.lines,
      line_flags s n fit nonempty fresh, bind, Except.bind]

/-! ## Field lines -/

/-- A quoted line after a keyword line continues the keyword's field. -/
theorem keyed_continued (s : ReadState) (d : Draft) (obs : Bool) (field : Field) (v w : String) :
    ({ s with draft := d.keyed obs field v } : ReadState).edit
        (fun e => e.modifyField field (· ++ w)) =
      { s with draft := d.keyed obs field (v ++ w) } := by
  simp [ReadState.edit, Draft.keyed, Entry.modifyField_modifyField, Function.comp_def]

/-- A field line as the printer writes it is its own trimmed text: after the marker it starts on
a solid character, and it ends on a quote. -/
theorem trimBlank_marker_append (obs : Bool) {body : List Char}
    (first : ∀ c ∈ body.head?, isBlank c = false) (quoted : body.getLast? = some '"') :
    trimBlank ((marker obs).toList ++ body) = (marker obs).toList ++ body := by
  have nonempty : body ≠ [] := by
    rintro rfl
    simp at quoted
  refine trimBlank_eq_self (fun c head => ?_) (fun c last => ?_)
  · cases obs with
    | false => exact first c (by simpa [marker] using head)
    | true =>
      simp only [marker, if_true] at head
      rw [show "#~ ".toList ++ body = '#' :: ('~' :: ' ' :: body) from rfl, List.head?_cons,
        Option.mem_some_iff] at head
      subst head
      decide
  · rw [List.getLast?_append_of_ne_nil _ nonempty, quoted, Option.mem_some_iff] at last
    subst last
    decide

/-- A keyword line as the printer writes it goes to the keyword step. -/
theorem line_keyedLine (s : ReadState) (n : Nat) (obs : Bool) {kw : String} (value : String)
    (starts : kw.toList.head? = some 'm') :
    s.line n (marker obs ++ kw ++ " \"" ++ escape value ++ "\"").toList =
      s.keyword n obs (kw.toList ++ ' ' :: '"' :: (encode value.toList ++ ['"'])) := by
  have text : (marker obs ++ kw ++ " \"" ++ escape value ++ "\"").toList =
      (marker obs).toList ++ (kw.toList ++ ' ' :: '"' :: (encode value.toList ++ ['"'])) := by
    simp [escape]
  have front : (kw.toList ++ ' ' :: '"' :: (encode value.toList ++ ['"'])).head? = some 'm' := by
    simp [List.head?_append, starts]
  have trimmed : trimBlank (marker obs ++ kw ++ " \"" ++ escape value ++ "\"").toList =
      (marker obs ++ kw ++ " \"" ++ escape value ++ "\"").toList := by
    rw [text]
    refine trimBlank_marker_append obs (fun c first => ?_)
      (by simp [List.getLast?_append, List.getLast?_cons])
    rw [front, Option.mem_some_iff] at first
    subst first
    decide
  exact line_keyword s n obs (trimmed.trans text) front

/-- A keyword line as the printer writes it sets the keyword's field to the value. -/
theorem line_keyed (s : ReadState) (n : Nat) (obs : Bool) {kw : String} {field : Field}
    (value : String) (starts : kw.toList.head? = some 'm')
    (read : ∀ m rest, readKeyword m (kw.toList ++ ' ' :: rest) = .ok (field, ' ' :: rest))
    (bounded : ∀ i, field = .str i → i ≤ maxIndex)
    (fresh : field = .context ∨ field = .id → s.draft.seenStr = false) :
    s.line n (marker obs ++ kw ++ " \"" ++ escape value ++ "\"").toList =
      .ok { s with draft := s.draft.keyed obs field value } := by
  have quoted := @unquote_quoted [' '] blank_space value.toList
  rw [String.ofList_toList] at quoted
  rw [line_keyedLine s n obs value starts]
  exact keyword_eq (read n _) quoted bounded fresh

/-- A quoted line as the printer writes it continues the last field with the piece. -/
theorem line_piece (s : ReadState) (n : Nat) (obs : Bool) {field : Field}
    (last : s.draft.field = some field) (piece : List Char) :
    s.line n (marker obs ++ "\"" ++ escape (String.ofList piece) ++ "\"").toList =
      .ok (s.edit fun e => e.modifyField field (· ++ String.ofList piece)) := by
  have text : (marker obs ++ "\"" ++ escape (String.ofList piece) ++ "\"").toList =
      (marker obs).toList ++ '"' :: (encode piece ++ ['"']) := by
    simp [escape]
  have trimmed : trimBlank (marker obs ++ "\"" ++ escape (String.ofList piece) ++ "\"").toList =
      (marker obs ++ "\"" ++ escape (String.ofList piece) ++ "\"").toList := by
    rw [text]
    refine trimBlank_marker_append obs (fun c first => ?_)
      (by simp [List.getLast?_append, List.getLast?_cons])
    rw [List.head?_cons, Option.mem_some_iff] at first
    subst first
    decide
  exact line_continued s n obs (trimmed.trans text) rfl last
    (@unquote_quoted [] (by simp) piece)

/-- The quoted lines of the pieces of a string continue the field with each piece in turn. -/
theorem lines_pieces (s : ReadState) (n : Nat) (obs : Bool) (d : Draft) (field : Field)
    (v : String) (ps : List (List Char)) :
    ({ s with draft := d.keyed obs field v } : ReadState).lines n
        ((ps.map fun p => marker obs ++ "\"" ++ escape (String.ofList p) ++ "\"").map
          String.toList) =
      .ok { s with draft := d.keyed obs field (v ++ String.ofList ps.flatten) } := by
  induction ps generalizing v n with
  | nil => simp [ReadState.lines]
  | cons p ps ih =>
    rw [List.map_cons, List.map_cons, ReadState.lines, line_piece _ n obs (Draft.keyed_field ..) p]
    simp only [bind, Except.bind]
    rw [keyed_continued, ih, List.flatten_cons, String.ofList_append, String.append_assoc]

/-- The lines the printer writes for a field set the field to the value, whether the value
takes one line or several. -/
theorem lines_fieldLines (s : ReadState) (n : Nat) (obs : Bool) {kw : String} {field : Field}
    (value : String) (starts : kw.toList.head? = some 'm')
    (read : ∀ m rest, readKeyword m (kw.toList ++ ' ' :: rest) = .ok (field, ' ' :: rest))
    (bounded : ∀ i, field = .str i → i ≤ maxIndex)
    (fresh : field = .context ∨ field = .id → s.draft.seenStr = false) :
    s.lines n ((fieldLines (marker obs) kw value).map String.toList) =
      .ok { s with draft := s.draft.keyed obs field value } := by
  unfold fieldLines
  split
  · -- an empty string, then one quoted line per piece
    have opening : marker obs ++ kw ++ " \"\"" = marker obs ++ kw ++ " \"" ++ escape "" ++ "\"" := by
      simp [escape, encode, String.append_assoc]
    rw [List.map_cons, ReadState.lines, opening, line_keyed s n obs "" starts read bounded fresh]
    simp only [bind, Except.bind]
    rw [lines_pieces, flatten_pieces, String.ofList_toList, String.empty_append]
  · rw [List.map_singleton, ReadState.lines, line_keyed s n obs value starts read bounded fresh]
    rfl

/-- The `msgstr[i]` lines of the forms, numbered from `k`, append the forms to an entry that has
`k` of them. -/
theorem lines_forms (obs : Bool) (ys : List String) (s : ReadState) (n k : Nat)
    (fits : k + ys.length ≤ maxIndex + 1) (count : s.draft.entry.msgstr.length = k)
    (marked : obs = true → s.draft.entry.obsolete = true) :
    ∃ d : Draft, s.lines n (((ys.zipIdx k).map fun (y, i) =>
        fieldLines (marker obs) ("msgstr[" ++ toString i ++ "]") y).flatten.map String.toList) =
      .ok { s with draft := d } ∧
      d.entry = { s.draft.entry with msgstr := s.draft.entry.msgstr ++ ys } ∧
      d.seenId = s.draft.seenId := by
  induction ys generalizing s n k with
  | nil => exact ⟨s.draft, by simp [ReadState.lines], by simp, rfl⟩
  | cons y ys ih =>
    have bounded : k ≤ maxIndex := by simp at fits; omega
    have read : ∀ m rest, readKeyword m (("msgstr[" ++ toString k ++ "]").toList ++ ' ' :: rest) =
        .ok (.str k, ' ' :: rest) := by
      intro m rest
      have spelled : ("msgstr[" ++ toString k ++ "]").toList ++ ' ' :: rest =
          "msgstr[".toList ++ Nat.toDigits 10 k ++ ']' :: ' ' :: rest := by
        simp [← Nat.toList_repr]
      rw [spelled, readKeyword_msgstr_index m (bounded.trans maxIndex_lt_wordMax.le)]
    have first := lines_fieldLines s n obs y (by simp) read (by simpa using bounded) (by simp)
    set next : ReadState := { s with draft := s.draft.keyed obs (.str k) y }
    have grown : next.draft.entry.msgstr = s.draft.entry.msgstr ++ [y] := by
      simp [next, Draft.keyed_entry marked, Entry.modifyField, ← count, setPadded_length]
    obtain ⟨d, rest, entry, seen⟩ := ih next (n + (fieldLines (marker obs)
        ("msgstr[" ++ toString k ++ "]") y).length) (k + 1) (by simp at fits ⊢; omega)
      (by simp [grown, count])
      (fun obsolete => by simp [next, Draft.keyed_entry marked, Entry.modifyField, marked obsolete])
    refine ⟨d, ?_, ?_, ?_⟩
    · rw [List.zipIdx_cons, List.map_cons, List.flatten_cons, List.map_append, lines_append, first]
      simpa [bind, Except.bind] using rest
    · rw [entry, grown]
      simp [next, Draft.keyed_entry marked, Entry.modifyField]
    · simp [seen, next]

/-- The comment lines of an entry that fits fill its lists, from a state that has seen no
string. -/
theorem lines_noteLines (s : ReadState) (n : Nat) {e : Entry} (fit : e.Fits)
    (unreferenced : e.obsolete = true → e.references = []) (fresh : s.draft.seenStr = false) :
    s.lines n (e.noteLines.map String.toList) =
      .ok (s.edit fun x =>
        { x with
          comments := x.comments ++ e.comments, extracted := x.extracted ++ e.extracted,
          references := x.references ++ e.references, flags := x.flags ++ e.flags,
          previous := x.previous ++ e.previous }) := by
  have references : ∀ (s : ReadState) n, s.draft.seenStr = false →
      s.lines n ((if e.obsolete then [] else referenceLines e.references).map String.toList) =
        .ok (s.edit fun x => { x with references := x.references ++ e.references }) := by
    intro s n fresh
    by_cases obsolete : e.obsolete
    · simp [obsolete, unreferenced obsolete, ReadState.lines, ReadState.edit]
    · simpa [obsolete] using lines_referenceLines s n fit.references fresh
  simp only [Entry.noteLines, List.map_append, lines_append, bind, Except.bind]
  rw [lines_comments _ _ fit.comments fresh]
  dsimp only
  rw [lines_extracted _ _ fit.extracted (by simpa using fresh)]
  dsimp only
  rw [references _ _ (by simpa using fresh)]
  dsimp only
  rw [lines_flags _ _ fit.flags (by simpa using fresh)]
  dsimp only
  rw [lines_previous _ _ fit.previous (by simpa using fresh)]
  rfl

/-- The plural id and strings of a writable entry, read into a draft that has no strings. -/
theorem lines_stringLines (s : ReadState) (n : Nat) {e : Entry} (w : e.Writable)
    (singular : s.draft.entry.msgidPlural = none) (empty : s.draft.entry.msgstr = [])
    (marked : e.obsolete = true → s.draft.entry.obsolete = true) :
    ∃ d : Draft, s.lines n (e.stringLines.map String.toList) = .ok { s with draft := d } ∧
      d.entry = { s.draft.entry with msgidPlural := e.msgidPlural, msgstr := e.msgstr } ∧
      d.seenId = s.draft.seenId := by
  unfold Entry.stringLines
  split
  · -- `msgid_plural`, then one `msgstr[i]` per form
    rename_i plural isPlural
    have first := lines_fieldLines s n e.obsolete plural (by simp)
      (fun m rest => readKeyword_msgid_plural m _) (by simp) (by simp)
    set t : ReadState := { s with draft := s.draft.keyed e.obsolete .idPlural plural }
    obtain ⟨d, rest, entry, seen⟩ := lines_forms e.obsolete e.msgstr t
      (n + (fieldLines (marker e.obsolete) "msgid_plural" plural).length) 0
      (by simpa using w.bounded) (by simp [t, Draft.keyed_entry marked, Entry.modifyField, empty])
      (fun obsolete => by simp [t, Draft.keyed_entry marked, Entry.modifyField, marked obsolete])
    refine ⟨d, ?_, ?_, ?_⟩
    · rw [List.map_append, lines_append, first]
      simpa only [bind, Except.bind, List.length_map] using rest
    · rw [entry]
      simp [t, Draft.keyed_entry marked, Entry.modifyField, empty, isPlural]
    · simp [seen, t]
  · -- a single `msgstr`
    rename_i plain
    have first := lines_fieldLines s n e.obsolete e.firstString (by simp)
      (fun m rest => readKeyword_msgstr m rest) (by simp) (by simp)
    obtain ⟨x, only⟩ := List.length_eq_one_iff.mp (w.single plain)
    refine ⟨_, first, ?_, by simp⟩
    simp [Draft.keyed_entry marked, Entry.modifyField, empty, setPadded, singular, plain, only,
      Entry.firstString]

/-- The context and id lines of an entry set those fields, and its mark, in a live draft
with no context. -/
theorem lines_keyLines (ds : List Entry) (m : Nat) (e notes : Entry)
    (live : notes.obsolete = false) (bare : notes.msgctxt = none) :
    ∃ t : ReadState, ({ done := ds, draft := { entry := notes } } : ReadState).lines m
        ((e.contextLines ++ fieldLines (marker e.obsolete) "msgid" e.msgid).map String.toList) =
      .ok t ∧ t.done = ds ∧ t.draft.seenId = true ∧
      t.draft.entry = { notes with msgctxt := e.msgctxt, msgid := e.msgid, obsolete := e.obsolete } := by
  unfold Entry.contextLines
  split
  · rename_i c context
    set contexted : ReadState :=
      { done := ds, draft := ({ entry := notes } : Draft).keyed e.obsolete .context c }
    have first : ({ done := ds, draft := { entry := notes } } : ReadState).lines m
        ((fieldLines (marker e.obsolete) "msgctxt" c).map String.toList) = .ok contexted :=
      lines_fieldLines _ m e.obsolete c (by simp) (fun m rest => readKeyword_msgctxt m _) (by simp)
        (by simp)
    refine ⟨{ contexted with draft := contexted.draft.keyed e.obsolete .id e.msgid }, ?_, rfl,
      by simp, ?_⟩
    · rw [List.map_append, lines_append, first]
      exact lines_fieldLines _ _ e.obsolete e.msgid (by simp)
        (fun m rest => readKeyword_msgid m rest) (by simp) (fun _ => rfl)
    · obtain ⟨_⟩ := notes
      cases obsolete : e.obsolete <;>
        simp_all [contexted, Draft.keyed, Entry.modifyField]
  · rename_i none
    rw [List.nil_append]
    refine ⟨_, lines_fieldLines ({ done := ds, draft := { entry := notes } } : ReadState) m
      e.obsolete e.msgid (by simp) (fun m rest => readKeyword_msgid m rest) (by simp)
      (fun _ => rfl), rfl, by simp, ?_⟩
    obtain ⟨_⟩ := notes
    cases e.obsolete <;> simp_all [Draft.keyed, Entry.modifyField]

/-- An entry the printer writes in full is read back as itself, from a state between entries. -/
theorem lines_entry (ds : List Entry) (n : Nat) {e : Entry} (w : e.Writable) :
    ∃ d : Draft, ({ done := ds } : ReadState).lines n (e.lines.map String.toList) =
      .ok { done := ds, draft := d } ∧ d.entry = e ∧ d.seenId = true := by
  -- the comment lines fill the lists of an empty draft
  set notes : Entry :=
    { comments := e.comments, extracted := e.extracted, references := e.references,
      flags := e.flags, previous := e.previous }
  have noted : ({ done := ds } : ReadState).lines n (e.noteLines.map String.toList) =
      .ok { done := ds, draft := { entry := notes } } := by
    rw [lines_noteLines _ _ w.toFits w.unreferenced rfl]
    rfl
  obtain ⟨t, read, done, seen, entry⟩ :=
    lines_keyLines ds (n + (e.noteLines.map String.toList).length) e notes rfl rfl
  obtain ⟨d, strings, final, seenAll⟩ := lines_stringLines t
    (n + (e.noteLines.map String.toList).length +
      ((e.contextLines ++ fieldLines (marker e.obsolete) "msgid" e.msgid).map String.toList).length)
    w (by simp [entry, notes]) (by simp [entry, notes]) (fun obsolete => by simp [entry, obsolete])
  refine ⟨d, ?_, ?_, by rw [seenAll, seen]⟩
  · rw [Entry.lines_eq, List.map_append, lines_append, noted]
    dsimp only [bind, Except.bind]
    rw [List.map_append, lines_append, read]
    dsimp only [bind, Except.bind]
    rw [strings, done]
  · rw [final, entry]

end ReadState

/-! ## No printed line holds a newline -/

theorem newline_not_mem_encode (cs : List Char) : '\n' ∉ encode cs := by
  induction cs with
  | nil => simp [encode]
  | cons c cs ih =>
    unfold encode
    split <;> simp_all [eq_comm]

theorem newline_not_mem_marker (obs : Bool) : '\n' ∉ (marker obs).toList := by
  cases obs <;> decide

/-- Every line that writes a field is free of newlines when its keyword is. -/
theorem newline_not_mem_fieldLines {obs : Bool} {kw : String} (plain : '\n' ∉ kw.toList)
    (value : String) : ∀ l ∈ fieldLines (marker obs) kw value, '\n' ∉ l.toList := by
  have unmarked := newline_not_mem_marker obs
  unfold fieldLines
  split <;> simp [escape, unmarked, plain, newline_not_mem_encode]

theorem newline_not_mem_referenceLine {group : List String} (fit : ∀ r ∈ group, IsWord r) :
    '\n' ∉ (referenceLine group).toList := by
  intro member
  simp only [referenceLine, String.toList_append, String.toList_join, List.mem_append,
    List.mem_flatMap, List.mem_map] at member
  rcases member with literal | ⟨_, ⟨r, word, rfl⟩, inside⟩
  · simp at literal
  · rw [String.toList_append, List.mem_append] at inside
    rcases inside with literal | inside
    · simp at literal
    · exact absurd ((fit r word).2 _ inside) (by decide)

theorem newline_not_mem_flagsLine {flags : List String} (fit : ∀ f ∈ flags, IsFlag f) :
    '\n' ∉ ("#, " ++ ", ".intercalate flags).toList := by
  simp only [String.toList_append, String.toList_intercalate, List.mem_append, not_or]
  refine ⟨by decide, fun inside => ?_⟩
  rcases mem_intercalate inside with separator | ⟨f, member, found⟩
  · exact absurd separator (by decide)
  · obtain ⟨flag, flagged, rfl⟩ := List.mem_map.mp member
    exact (fit flag flagged).2.1.1 found

/-- The keyword of a form is free of newlines: its index is written in digits. -/
theorem newline_not_mem_formKeyword (i : Nat) : '\n' ∉ ("msgstr[" ++ toString i ++ "]").toList := by
  simp only [String.toList_append, List.mem_append, not_or]
  refine ⟨⟨by decide, fun digit => ?_⟩, by decide⟩
  have isDigit := Nat.isDigit_of_mem_toDigits (by decide) (by decide) (Nat.toList_repr ▸ digit)
  exact absurd isDigit (by decide)

/-- No line of an entry that fits holds a newline. -/
theorem newline_not_mem_lines {e : Entry} (fit : e.Fits) : ∀ l ∈ e.lines, '\n' ∉ l.toList := by
  intro l member
  rw [Entry.lines_eq] at member
  simp only [Entry.noteLines, Entry.contextLines, Entry.stringLines, List.mem_append,
    List.mem_map] at member
  rcases member with (((((⟨c, comment, rfl⟩ | ⟨x, extracted, rfl⟩) | references) | flags) |
    ⟨p, previous, rfl⟩) | ((context | msgid) | strings))
  · have plain := (fit.comments c comment).1
    split
    · decide
    · simp [plain]
  · simp [(fit.extracted x extracted).1]
  · split at references
    · simp at references
    · obtain ⟨groups, lines, flat⟩ := referenceLines_eq e.references
      rw [lines] at references
      obtain ⟨group, member, rfl⟩ := List.mem_map.mp references
      exact newline_not_mem_referenceLine fun r word =>
        fit.references r (flat ▸ List.mem_flatten.mpr ⟨group, member, word⟩)
  · split at flags
    · simp at flags
    · rw [List.mem_singleton] at flags
      subst flags
      exact newline_not_mem_flagsLine fit.flags
  · simp [(fit.previous p previous).1]
  · split at context
    · exact newline_not_mem_fieldLines (by decide) _ l context
    · simp at context
  · exact newline_not_mem_fieldLines (by decide) _ l msgid
  · split at strings
    · rw [List.mem_append] at strings
      rcases strings with plural | forms
      · exact newline_not_mem_fieldLines (by decide) _ l plural
      · obtain ⟨lines, member, inside⟩ := List.mem_flatten.mp forms
        obtain ⟨⟨form, i⟩, _, rfl⟩ := List.mem_map.mp member
        exact newline_not_mem_fieldLines (newline_not_mem_formKeyword i) _ l inside
    · exact newline_not_mem_fieldLines (by decide) _ l strings

end Localize.Po
