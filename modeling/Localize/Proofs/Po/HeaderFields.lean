import Mathlib.Data.List.Forall2
import Mathlib.Data.List.Induction
import Localize.Po.Merge
import Localize.Proofs.Text

/-! # Setting a header field again

`setHeaderField` cuts the header text into its pieces, each line with its newline, and puts the
piece `name: value` (`fieldPiece`) in place of the first piece that is the field, or after the
text. Every piece but the last ends with its newline (`pieces_eq_append_cons`), so the pieces of
what it writes are the pieces it kept around the new one, and the new piece is the first field of
the result (`pieces_setHeaderField`). A header whose first such field already is that piece is
left as it is (`setHeaderField_of_pieces`); together, setting the same value twice is setting it
once (`setHeaderField_setHeaderField`). A merge sets the creation date of the existing header
to the incoming one, so merging with the same incoming header again keeps the header
(`mergedHeader_again`).

Reading a field looks at lines without their line ends, but a line end is blank, so a field
reads the same from its piece (`headerValue_eq_pieces`, from `fieldValue_append_blank`). The
pieces of what setting writes are those of the header with the field's first piece replaced, or
with the last piece closed and the new piece after it (`pieces_setHeaderField_cases`). So the
field set reads as the value trimmed (`headerValue_setHeaderField_self`), and every other field
reads as before (`headerValue_setHeaderField_of_ne`): setting a field updates exactly that field
(`setHeaderField_updates_one_field`).
-/

namespace Localize.Text

/-- A line ended by its newline, with no other newline. -/
def EndedLine (p : List Char) : Prop := ∃ l, '\n' ∉ l ∧ p = l ++ ['\n']

/-- Lines ended by their newlines cut back into themselves, before the pieces of what follows. -/
theorem pieces_flatten_append {ps : List (List Char)} (ended : ∀ p ∈ ps, EndedLine p)
    (rest : List Char) : pieces (ps.flatten ++ rest) = ps ++ pieces rest := by
  induction ps with
  | nil => rfl
  | cons p ps ih =>
    obtain ⟨l, plain, rfl⟩ := ended p List.mem_cons_self
    rw [List.flatten_cons, List.append_assoc, List.append_assoc, List.singleton_append,
      pieces_newline l _ plain, ih fun q member => ended q (List.mem_cons_of_mem _ member),
      List.cons_append]

/-- A line ended by its newline is the first piece of what it starts. -/
theorem pieces_endedLine_append {p : List Char} (ended : EndedLine p) (rest : List Char) :
    pieces (p ++ rest) = p :: pieces rest := by
  obtain ⟨l, plain, rfl⟩ := ended
  rw [List.append_assoc, List.singleton_append, pieces_newline l _ plain]

/-- A piece followed by another ends with its newline, and the others are the pieces of the
rest of the text. -/
theorem pieces_cons_cons {cs p q : List Char} {qs : List (List Char)}
    (cut : pieces cs = p :: q :: qs) : EndedLine p ∧ ∃ after, pieces after = q :: qs := by
  rw [pieces] at cut
  split at cut
  · split at cut <;> simp at cut
  · rename_i nl after split_at
    obtain ⟨rfl, rest⟩ := List.cons.inj cut
    have newline : nl = '\n' := by
      have nonempty : cs.dropWhile (fun x : Char => x != '\n') ≠ [] := by simp [split_at]
      have head := List.head_dropWhile_not (fun x : Char => x != '\n') nonempty
      simpa [split_at] using head
    refine ⟨⟨_, fun member => ?_, by rw [newline]⟩, after, rest⟩
    simpa using List.mem_takeWhile_imp member

/-- Every piece before a later one ends with its newline. -/
theorem pieces_eq_append_cons {cs line : List Char} {pre rest : List (List Char)}
    (cut : pieces cs = pre ++ line :: rest) : ∀ p ∈ pre, EndedLine p := by
  induction pre generalizing cs with
  | nil => simp
  | cons p pre ih =>
    obtain ⟨q, qs, later⟩ := List.exists_cons_of_ne_nil (by simp : pre ++ line :: rest ≠ [])
    obtain ⟨ended, after, rest_cut⟩ :=
      pieces_cons_cons (cut.trans (by rw [List.cons_append, later]))
    intro r member
    rcases List.mem_cons.mp member with rfl | inner
    · exact ended
    · exact ih (rest_cut.trans later.symm) r inner

/-- No piece is empty. -/
theorem ne_nil_of_mem_pieces {cs p : List Char} (member : p ∈ pieces cs) : p ≠ [] := by
  fun_induction pieces cs with
  | case1 => simp at member
  | case2 cs _ nonempty =>
    rw [List.mem_singleton.mp member]
    simpa using nonempty
  | case3 cs nl after split_at ih =>
    rcases List.mem_cons.mp member with rfl | later
    · simp
    · exact ih later

/-- The pieces after some first pieces are the pieces of their own text. -/
theorem pieces_flatten_of_eq_append {cs : List Char} {pre rest : List (List Char)}
    (cut : pieces cs = pre ++ rest) : pieces rest.flatten = rest := by
  cases rest with
  | nil => exact pieces_nil
  | cons r rs =>
    have ended := pieces_eq_append_cons cut
    have whole : cs = pre.flatten ++ (r :: rs).flatten := by
      rw [← flatten_pieces cs, cut, List.flatten_append]
    have again := pieces_flatten_append ended (r :: rs).flatten
    rw [← whole, cut] at again
    exact (List.append_cancel_left again).symm

/-- Blanks at the end of a text are trimmed away. -/
theorem trimBlank_append_blanks {tail : List Char} (blank : ∀ c ∈ tail, isBlank c = true)
    (cs : List Char) : trimBlank (cs ++ tail) = trimBlank cs := by
  induction tail using List.reverseRecOn with
  | nil => rw [List.append_nil]
  | append_singleton tail c ih =>
    rw [← List.append_assoc, trimBlank_append_blank (blank c (by simp)),
      ih fun d member => blank d (by simp [member])]

end Localize.Text

namespace Localize.Po

open Localize.Text

/-- The piece that writes field `name` with `value`. -/
def fieldPiece (name value : String) : List Char := (name ++ ": " ++ value ++ "\n").toList

/-- A name that a header line can carry as written: no colon, no newline, no blank at its
ends. -/
structure FieldName (name : String) : Prop where
  colon : ':' ∉ name.toList
  newline : '\n' ∉ name.toList
  trimmed : trimBlank name.toList = name.toList

theorem isField_fieldPiece {name : String} (named : FieldName name) (value : String) :
    isField name.toList (fieldPiece name value) = true := by
  have text : fieldPiece name value = name.toList ++ ':' :: (' ' :: (value.toList ++ ['\n'])) := by
    simp [fieldPiece]
  rw [isField, text, splitOnce_append ':' _ _ named.colon]
  simp [named.trimmed]

theorem endedLine_fieldPiece {name value : String} (named : FieldName name)
    (plain : '\n' ∉ value.toList) : EndedLine (fieldPiece name value) :=
  ⟨(name ++ ": " ++ value).toList, by simp [named.newline, plain], by simp [fieldPiece]⟩

/-- The value a header line gives field `name`, when the line is that field. -/
def fieldValue (name line : List Char) : Option String :=
  match splitOnce ':' line with
  | some (field, value) =>
    if trimBlank field == name then some (String.ofList (trimBlank value)) else none
  | none => none

theorem isField_eq_isSome (name line : List Char) :
    isField name line = (fieldValue name line).isSome := by
  cases split_at : splitOnce ':' line with
  | none => simp [isField, fieldValue, split_at]
  | some pair =>
    obtain ⟨field, value⟩ := pair
    by_cases same : trimBlank field = name <;> simp [isField, fieldValue, split_at, same]

/-- Blanks after a line, none of them a colon, change neither which field it is nor its
value. -/
theorem fieldValue_append_blank {tail : List Char}
    (blank : ∀ c ∈ tail, isBlank c = true ∧ c ≠ ':') (name line : List Char) :
    fieldValue name (line ++ tail) = fieldValue name line := by
  unfold fieldValue splitOnce
  rw [List.dropWhile_append, List.takeWhile_append]
  cases split_at : line.dropWhile (· != ':') with
  | nil =>
    have none : tail.dropWhile (· != ':') = [] :=
      List.dropWhile_eq_nil_iff.mpr fun c member => by simpa using (blank c member).2
    simp [none]
  | cons c after =>
    -- the colon is inside the line, so the blanks join the value and are trimmed away
    have shorter : (line.takeWhile (· != ':')).length ≠ line.length := by
      have whole := congrArg List.length
        (List.takeWhile_append_dropWhile (p := (· != ':')) (l := line))
      rw [List.length_append, split_at] at whole
      simp only [List.length_cons] at whole
      omega
    simp [shorter, trimBlank_append_blanks fun d member => (blank d member).1]

theorem newline_lineEnd : ∀ c ∈ ['\n'], isBlank c = true ∧ c ≠ ':' := by
  intro c member
  rw [List.mem_singleton.mp member]
  exact ⟨by decide, by decide⟩

theorem return_lineEnd : ∀ c ∈ ['\r'], isBlank c = true ∧ c ≠ ':' := by
  intro c member
  rw [List.mem_singleton.mp member]
  exact ⟨by decide, by decide⟩

/-- A newline at the end of a line does not change which field it is. -/
theorem isField_append_newline (name p : List Char) :
    isField name (p ++ ['\n']) = isField name p := by
  rw [isField_eq_isSome, isField_eq_isSome, fieldValue_append_blank newline_lineEnd]

section ReplaceFirst

variable (name : String) (fresh : List Char)

theorem replaceFirst_append {pre rest : List (List Char)} {line : List Char}
    (others : ∀ p ∈ pre, isField name.toList p = false) (field : isField name.toList line = true) :
    setHeaderField.replaceFirst name fresh (pre ++ line :: rest) = some (pre ++ fresh :: rest) := by
  induction pre with
  | nil => simp [setHeaderField.replaceFirst, field]
  | cons p pre ih =>
    simp [setHeaderField.replaceFirst, others p List.mem_cons_self,
      ih fun q member => others q (List.mem_cons_of_mem _ member)]

theorem replaceFirst_eq_none {ps : List (List Char)}
    (others : ∀ p ∈ ps, isField name.toList p = false) :
    setHeaderField.replaceFirst name fresh ps = none := by
  induction ps with
  | nil => rfl
  | cons p ps ih =>
    simp [setHeaderField.replaceFirst, others p List.mem_cons_self,
      ih fun q member => others q (List.mem_cons_of_mem _ member)]

end ReplaceFirst

/-- Setting a field to the value its first line already writes leaves the header alone. -/
theorem setHeaderField_of_pieces {header name value : String} (named : FieldName name)
    {pre rest : List (List Char)} (cut : pieces header.toList = pre ++ fieldPiece name value :: rest)
    (others : ∀ p ∈ pre, isField name.toList p = false) :
    setHeaderField header name value = header := by
  have replaced := @replaceFirst_append name (fieldPiece name value) pre rest _ others
    (isField_fieldPiece named value)
  simp only [setHeaderField]
  rw [← fieldPiece, cut, replaced]
  dsimp only
  rw [← cut, flatten_pieces, String.ofList_toList]

/-- A piece and the same piece closed: with its newline added when it lacked one. -/
def Closes (p q : List Char) : Prop := q = p ∨ '\n' ∉ p ∧ q = p ++ ['\n']

/-- What every piece has, its closed piece has, when a newline at the end keeps it. -/
theorem Closes.forall_mem {keep : List Char → Prop} (closing : ∀ p, keep p → keep (p ++ ['\n'])) :
    ∀ {ps qs : List (List Char)}, List.Forall₂ Closes ps qs → (∀ p ∈ ps, keep p) →
      ∀ q ∈ qs, keep q
  | _, _, .nil, _ => by simp
  | _, _, .cons closes rest, kept => by
    intro q member
    rcases List.mem_cons.mp member with rfl | later
    · rcases closes with rfl | ⟨-, rfl⟩
      · exact kept _ List.mem_cons_self
      · exact closing _ (kept _ List.mem_cons_self)
    · exact Closes.forall_mem closing rest (fun p inside => kept p (List.mem_cons_of_mem _ inside))
        q later

/-- A search that a newline at the end does not disturb finds the same among closed pieces. -/
theorem Closes.findSome?_eq {f : List Char → Option String}
    (closing : ∀ p, f (p ++ ['\n']) = f p) :
    ∀ {ps qs : List (List Char)}, List.Forall₂ Closes ps qs → ps.findSome? f = qs.findSome? f
  | _, _, .nil => rfl
  | _, _, .cons closes rest => by
    have same : ∀ {p q}, Closes p q → f p = f q := by
      rintro p q (rfl | ⟨-, rfl⟩)
      · rfl
      · exact (closing p).symm
    simp only [List.findSome?_cons, same closes, Closes.findSome?_eq closing rest]

/-- A text with a newline added unless it is empty or ends with one is lines ended by their
newlines: its pieces, the last one closed. -/
theorem closedPieces (text : List Char) :
    ∃ ps : List (List Char),
      text ++ (if (text.isEmpty || text.getLast? == some '\n') = true then [] else ['\n']) =
        ps.flatten ∧ (∀ p ∈ ps, EndedLine p) ∧ List.Forall₂ Closes (pieces text) ps := by
  rcases List.eq_nil_or_concat (pieces text) with empty | ⟨init, last, cut⟩
  · have empty_text : text = [] := by rw [← flatten_pieces text, empty]; rfl
    exact ⟨[], by simp [empty_text], by simp, by rw [empty]; exact .nil⟩
  · have ended := @pieces_eq_append_cons text last init [] (by rw [cut, List.concat_eq_append])
    have whole : text = init.flatten ++ last := by
      rw [← flatten_pieces text, cut]
      simp
    have lastPiece : last ∈ pieces text := by simp [cut]
    have kept : List.Forall₂ Closes init init := List.forall₂_same.mpr fun p _ => .inl rfl
    rw [cut, List.concat_eq_append]
    rcases mem_pieces lastPiece with ⟨q, rfl, plain⟩ | plain
    · -- the text ends with its newline
      exact ⟨init ++ [q ++ ['\n']], by simp [whole],
        List.forall_mem_append.mpr ⟨ended, List.forall_mem_singleton.mpr ⟨q, plain, rfl⟩⟩,
        List.rel_append kept (.cons (.inl rfl) .nil)⟩
    · -- the last line lacks its newline, which is added
      have nonempty := ne_nil_of_mem_pieces lastPiece
      have notClosed : last.getLast? ≠ some '\n' := fun closed => plain (List.mem_of_getLast? closed)
      have separator : (if (text.isEmpty || text.getLast? == some '\n') = true then [] else ['\n']) =
          ['\n'] := by
        simp [whole, nonempty, List.getLast?_append_of_ne_nil _ nonempty, notClosed]
      exact ⟨init ++ [last ++ ['\n']], by rw [separator, whole]; simp,
        List.forall_mem_append.mpr ⟨ended, List.forall_mem_singleton.mpr ⟨last, plain, rfl⟩⟩,
        List.rel_append kept (.cons (.inr ⟨plain, rfl⟩) .nil)⟩

/-- What setting a field writes: either the header's first piece that is the field is replaced
by the new piece, or no piece is the field, and the new piece comes after the header's pieces,
the last one closed. -/
theorem pieces_setHeaderField_cases (header : String) {name value : String}
    (named : FieldName name) (plain : '\n' ∉ value.toList) :
    (∃ pre line rest, pieces header.toList = pre ++ line :: rest ∧
      isField name.toList line = true ∧ (∀ p ∈ pre, isField name.toList p = false) ∧
      pieces (setHeaderField header name value).toList = pre ++ fieldPiece name value :: rest) ∨
    ((∀ p ∈ pieces header.toList, isField name.toList p = false) ∧
      ∃ ps, List.Forall₂ Closes (pieces header.toList) ps ∧
        pieces (setHeaderField header name value).toList = ps ++ [fieldPiece name value]) := by
  have fresh := endedLine_fieldPiece named plain
  have single : pieces (fieldPiece name value) = [fieldPiece name value] := by
    simpa [pieces_nil] using pieces_endedLine_append fresh []
  simp only [setHeaderField]
  rw [← fieldPiece]
  cases found : (pieces header.toList).find? (isField name.toList) with
  | some line =>
    obtain ⟨field, pre, rest, cut, others⟩ := List.find?_eq_some_iff_append.mp found
    have others : ∀ p ∈ pre, isField name.toList p = false := by simpa using others
    have after : pieces rest.flatten = rest :=
      @pieces_flatten_of_eq_append header.toList (pre ++ [line]) rest (by rw [cut]; simp)
    refine .inl ⟨pre, line, rest, cut, field, others, ?_⟩
    rw [cut, replaceFirst_append name _ others field, String.toList_ofList, List.flatten_append,
      List.flatten_cons, pieces_flatten_append (pieces_eq_append_cons cut),
      pieces_endedLine_append fresh, after]
  | none =>
    -- no piece is the field: the new one comes after the text, on a line of its own
    have others : ∀ p ∈ pieces header.toList, isField name.toList p = false := by
      simpa using List.find?_eq_none.mp found
    rw [replaceFirst_eq_none name _ others, String.toList_ofList]
    obtain ⟨ps, closed, ended, related⟩ := closedPieces header.toList
    exact .inr ⟨others, ps, related, by rw [closed, pieces_flatten_append ended, single]⟩

/-- What setting a field writes has the new piece as its first field. -/
theorem pieces_setHeaderField (header : String) {name value : String} (named : FieldName name)
    (plain : '\n' ∉ value.toList) :
    ∃ pre rest, pieces (setHeaderField header name value).toList =
        pre ++ fieldPiece name value :: rest ∧ ∀ p ∈ pre, isField name.toList p = false := by
  rcases pieces_setHeaderField_cases header named plain with
    ⟨pre, -, rest, -, -, others, cut⟩ | ⟨others, ps, related, cut⟩
  · exact ⟨pre, rest, cut, others⟩
  · exact ⟨ps, [], cut, Closes.forall_mem (fun p plain => by rw [isField_append_newline]; exact plain)
      related others⟩

/-- Setting a field to a value twice is setting it once. -/
theorem setHeaderField_setHeaderField (header : String) {name value : String}
    (named : FieldName name) (plain : '\n' ∉ value.toList) :
    setHeaderField (setHeaderField header name value) name value =
      setHeaderField header name value := by
  obtain ⟨pre, rest, cut, others⟩ := pieces_setHeaderField header named plain
  exact setHeaderField_of_pieces named cut others

/-- A value read from a header is part of one of its lines. -/
theorem newline_not_mem_headerValue {header name value : String}
    (found : headerValue header name = some value) : '\n' ∉ value.toList := by
  obtain ⟨line, member, read⟩ := List.exists_of_findSome?_eq_some found
  have plain := newline_not_mem_of_mem_lines member
  split at read
  · rename_i field after split_at
    split at read
    · cases read
      rw [String.toList_ofList]
      -- the value follows the first colon of the line
      have tail : after <:+ line := by
        unfold splitOnce at split_at
        split at split_at
        · cases split_at
        · rename_i rest dropped
          cases split_at
          exact (List.suffix_cons _ _).trans (dropped ▸ List.dropWhile_suffix _)
      exact fun inside => plain (tail.subset ((trimBlank_sublist after).subset inside))
    · cases read
  · cases read

theorem fieldName_creationField : FieldName creationField :=
  ⟨by decide, by decide, by decide⟩

/-- Merging the same incoming header again keeps the header an existing one became. -/
theorem mergedHeader_again (old : Entry) (new : Option Entry) :
    mergedHeader (mergedHeader (some old) new) new = mergedHeader (some old) new := by
  unfold mergedHeader
  cases created : new.bind fun h => headerValue h.firstString creationField with
  | none => rfl
  | some date =>
    have plain : '\n' ∉ date.toList := by
      obtain ⟨h, -, read⟩ := Option.bind_eq_some_iff.mp created
      exact newline_not_mem_headerValue read
    simp [Entry.firstString, setHeaderField_setHeaderField _ fieldName_creationField plain]

/-! ## Reading a field after setting one -/

/-- Reading a header's field looks at its pieces: the line end that a line drops is blank. -/
theorem headerValue_eq_pieces (header name : String) :
    headerValue header name = (pieces header.toList).findSome? (fieldValue name.toList) := by
  have read : headerValue header name = (lines header.toList).findSome? (fieldValue name.toList) :=
    rfl
  rw [read, lines, List.findSome?_map]
  congr 1
  funext p
  simp only [Function.comp]
  split
  · rename_i closed
    obtain ⟨init, rfl⟩ := List.getLast?_eq_some_iff.mp closed
    rw [List.dropLast_concat, fieldValue_append_blank newline_lineEnd]
    split
    · rename_i returned
      obtain ⟨line, rfl⟩ := List.getLast?_eq_some_iff.mp (by simpa using returned)
      rw [List.dropLast_concat, fieldValue_append_blank return_lineEnd]
    · rfl
  · rfl

theorem fieldValue_eq_none_of_isField {name line : List Char} (other : isField name line = false) :
    fieldValue name line = none := by
  rw [isField_eq_isSome] at other
  simpa using other

/-- A line that is one field gives no value to another. -/
theorem fieldValue_of_isField_ne {name other line : List Char} (field : isField name line = true)
    (different : other ≠ name) : fieldValue other line = none := by
  cases split_at : splitOnce ':' line with
  | none => simp [isField, split_at] at field
  | some pair =>
    obtain ⟨before, after⟩ := pair
    simp only [isField, split_at, beq_iff_eq] at field
    simp [fieldValue, split_at, field, Ne.symm different]

theorem fieldValue_fieldPiece {name : String} (named : FieldName name) (value : String) :
    fieldValue name.toList (fieldPiece name value) = some value.trimBlank := by
  have text : fieldPiece name value = name.toList ++ ':' :: ([' '] ++ (value.toList ++ ['\n'])) := by
    simp [fieldPiece]
  rw [fieldValue, text, splitOnce_append ':' _ _ named.colon]
  simp only [named.trimmed, beq_self_eq_true, if_true, trimBlank_blank_append blank_space,
    trimBlank_append_blank (c := '\n') (by decide), String.trimBlank]

/-- After setting a field, it reads as the value trimmed. -/
theorem headerValue_setHeaderField_self (header : String) {name value : String}
    (named : FieldName name) (plain : '\n' ∉ value.toList) :
    headerValue (setHeaderField header name value) name = some value.trimBlank := by
  obtain ⟨pre, rest, cut, others⟩ := pieces_setHeaderField header named plain
  have before : pre.findSome? (fieldValue name.toList) = none :=
    List.findSome?_eq_none_iff.mpr fun p member => fieldValue_eq_none_of_isField (others p member)
  rw [headerValue_eq_pieces, cut, List.findSome?_append, before, Option.none_or,
    List.findSome?_cons_of_isSome (by rw [fieldValue_fieldPiece named]; rfl),
    fieldValue_fieldPiece named]

/-- After setting a field, every other field reads as before. -/
theorem headerValue_setHeaderField_of_ne (header : String) {name value other : String}
    (named : FieldName name) (plain : '\n' ∉ value.toList) (different : other ≠ name) :
    headerValue (setHeaderField header name value) other = headerValue header other := by
  have apart : other.toList ≠ name.toList := fun same => different (String.toList_inj.mp same)
  have fresh : fieldValue other.toList (fieldPiece name value) = none :=
    fieldValue_of_isField_ne (isField_fieldPiece named value) apart
  rw [headerValue_eq_pieces, headerValue_eq_pieces]
  rcases pieces_setHeaderField_cases header named plain with
    ⟨pre, line, rest, cut, field, -, written⟩ | ⟨-, ps, related, written⟩
  · -- the piece replaced and the new one are both the field set, not `other`
    rw [written, cut, List.findSome?_append, List.findSome?_append,
      List.findSome?_cons_of_isNone (by rw [fresh]; rfl),
      List.findSome?_cons_of_isNone (by rw [fieldValue_of_isField_ne field apart]; rfl)]
  · -- closing the last piece keeps what it reads, and the new piece reads nothing for `other`
    rw [written, List.findSome?_append, List.findSome?_cons_of_isNone (by rw [fresh]; rfl),
      List.findSome?_nil, Option.or_none]
    exact (Closes.findSome?_eq (fieldValue_append_blank newline_lineEnd other.toList) related).symm

/-- **Setting a header field updates exactly that field.** For a name with no colon, no newline
and no blank at its ends, and a value without a newline, the field then reads as the value
trimmed, every other field reads as before, and setting the same value again changes
nothing. -/
theorem setHeaderField_updates_one_field (header : String) {name value : String}
    (named : FieldName name) (plain : '\n' ∉ value.toList) :
    headerValue (setHeaderField header name value) name = some value.trimBlank ∧
      (∀ other, other ≠ name →
        headerValue (setHeaderField header name value) other = headerValue header other) ∧
      setHeaderField (setHeaderField header name value) name value =
        setHeaderField header name value :=
  ⟨headerValue_setHeaderField_self header named plain,
    fun _ different => headerValue_setHeaderField_of_ne header named plain different,
    setHeaderField_setHeaderField header named plain⟩

/-- A creation date set in a header that has none. -/
theorem creationField_updates_one_field :
    FieldName creationField ∧ '\n' ∉ " 2019-11-29 ".toList ∧
      headerValue (setHeaderField "Language: fr\r\n" creationField " 2019-11-29 ") creationField =
        some " 2019-11-29 ".trimBlank ∧
      (∀ other, other ≠ creationField →
        headerValue (setHeaderField "Language: fr\r\n" creationField " 2019-11-29 ") other =
          headerValue "Language: fr\r\n" other) ∧
      setHeaderField (setHeaderField "Language: fr\r\n" creationField " 2019-11-29 ") creationField
          " 2019-11-29 " =
        setHeaderField "Language: fr\r\n" creationField " 2019-11-29 " := by
  have plain : '\n' ∉ " 2019-11-29 ".toList := by decide
  exact ⟨fieldName_creationField, plain,
    setHeaderField_updates_one_field "Language: fr\r\n" fieldName_creationField plain⟩

end Localize.Po
