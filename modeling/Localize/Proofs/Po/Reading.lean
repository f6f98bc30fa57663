import Localize.Po.Reader
import Localize.Proofs.Text

/-! # What one line does to the catalog reader

The reader takes a catalog line by line. This module says what each kind of line does to the
reader's state, so that later proofs follow a text through the reader one line at a time
without opening `ReadState.line`: a blank line ends the entry (`line_blank`), a comment line
goes to `ReadState.comment` (`line_comment`), a keyword line sets its field
(`line_keyword`, `keyword_eq`) and a quoted line continues the last field
(`line_continued`). The keywords the printer writes are read as the fields they name
(`readKeyword_msgid` and its siblings), and a string the printer escapes reads back as itself
(`unquote_quoted`).
-/

namespace Localize.Po

open Localize.Text

/-- A quoted text after blanks reads as what the text between the quotes decodes to. -/
theorem unquote_wrapped {pre : List Char} (blank : ∀ c ∈ pre, isBlank c = true) {body v : List Char}
    (decoded : decode body = some v) :
    unquote (pre ++ '"' :: (body ++ ['"'])) = .ok (String.ofList v) := by
  have trimmed : trimBlank (pre ++ '"' :: (body ++ ['"'])) = '"' :: (body ++ ['"']) := by
    rw [trimBlank_blank_append blank]
    refine trimBlank_eq_self (by simp [isBlank]) fun c last => ?_
    rw [← List.cons_append, List.getLast?_concat, Option.mem_some_iff] at last
    subst last
    decide
  rw [unquote, trimmed]
  split
  · rename_i head inner whole
    rw [← (List.cons.inj whole).2]
    simp [decoded]
  · rename_i notQuoted
    obtain ⟨head, inner, split_at⟩ := List.exists_cons_of_ne_nil (List.concat_ne_nil '"' body)
    exact absurd (by rw [split_at]) (notQuoted head inner)

/-- A string written between quotes, after blanks, reads back as itself. -/
theorem unquote_quoted {pre : List Char} (blank : ∀ c ∈ pre, isBlank c = true) (cs : List Char) :
    unquote (pre ++ '"' :: (encode cs ++ ['"'])) = .ok (String.ofList cs) :=
  unquote_wrapped blank (decode_encode cs)

/-- Reading the digits of a number that fits in a machine word gives the number back. -/
theorem readIndex_toDigits {i : Nat} (fits : i ≤ wordMax) :
    readIndex (Nat.toDigits 10 i) = some i := by
  have isDigit : ∀ c ∈ Nat.toDigits 10 i, c.isDigit = true := fun c member =>
    Nat.isDigit_of_mem_toDigits (by decide) (by decide) member
  have value : (Nat.toDigits 10 i).foldl (fun acc d => acc * 10 + (d.toNat - 48)) 0 = i := by
    have := @Nat.ofDigitChars_toDigits 10 i (by decide) (by decide)
    simpa [Nat.ofDigitChars, Nat.mul_comm] using this
  have plain : ∀ rest, Nat.toDigits 10 i ≠ '+' :: rest := fun rest same =>
    absurd (isDigit '+' (same ▸ List.mem_cons_self)) (by decide)
  unfold readIndex
  split
  · rename_i rest signed
    exact absurd signed (plain rest)
  · simp [Nat.toDigits_ne_nil, List.all_eq_true.mpr isDigit, value, fits]

/-! ## Keywords -/

theorem readKeyword_msgctxt (n : Nat) (rest : List Char) :
    readKeyword n ("msgctxt".toList ++ rest) = .ok (.context, rest) := by
  rw [readKeyword, afterPrefix?_append]

theorem readKeyword_msgid_plural (n : Nat) (rest : List Char) :
    readKeyword n ("msgid_plural".toList ++ rest) = .ok (.idPlural, rest) := by
  have context : afterPrefix? "msgctxt".toList ("msgid_plural".toList ++ rest) = none := rfl
  rw [readKeyword, context, afterPrefix?_append]

theorem readKeyword_msgid (n : Nat) (rest : List Char) :
    readKeyword n ("msgid".toList ++ ' ' :: rest) = .ok (.id, ' ' :: rest) := by
  have context : afterPrefix? "msgctxt".toList ("msgid".toList ++ ' ' :: rest) = none := rfl
  have plural : afterPrefix? "msgid_plural".toList ("msgid".toList ++ ' ' :: rest) = none := rfl
  rw [readKeyword, context, plural, afterPrefix?_append]

theorem readKeyword_msgstr (n : Nat) (rest : List Char) :
    readKeyword n ("msgstr".toList ++ ' ' :: rest) = .ok (.str 0, ' ' :: rest) := by
  have context : afterPrefix? "msgctxt".toList ("msgstr".toList ++ ' ' :: rest) = none := rfl
  have plural : afterPrefix? "msgid_plural".toList ("msgstr".toList ++ ' ' :: rest) = none := rfl
  have id : afterPrefix? "msgid".toList ("msgstr".toList ++ ' ' :: rest) = none := rfl
  have indexed : afterPrefix? "msgstr[".toList ("msgstr".toList ++ ' ' :: rest) = none := rfl
  rw [readKeyword, context, plural, id, indexed, afterPrefix?_append]

/-- `msgstr[i]` sets form `i`, for every index that fits in a machine word. -/
theorem readKeyword_msgstr_index (n : Nat) {i : Nat} (fits : i ≤ wordMax) (rest : List Char) :
    readKeyword n ("msgstr[".toList ++ Nat.toDigits 10 i ++ ']' :: rest) = .ok (.str i, rest) := by
  have context :
      afterPrefix? "msgctxt".toList ("msgstr[".toList ++ Nat.toDigits 10 i ++ ']' :: rest) = none :=
    rfl
  have plural : afterPrefix? "msgid_plural".toList
      ("msgstr[".toList ++ Nat.toDigits 10 i ++ ']' :: rest) = none := rfl
  have id :
      afterPrefix? "msgid".toList ("msgstr[".toList ++ Nat.toDigits 10 i ++ ']' :: rest) = none :=
    rfl
  have isDigit : ∀ c ∈ Nat.toDigits 10 i, c.isDigit = true := fun c member =>
    Nat.isDigit_of_mem_toDigits (by decide) (by decide) member
  have unbracketed : ']' ∉ Nat.toDigits 10 i := fun member =>
    absurd (isDigit ']' member) (by decide)
  have solid : trimBlank (Nat.toDigits 10 i) = Nat.toDigits 10 i :=
    trimBlank_eq_self (fun c member => isBlank_of_isDigit (isDigit c (List.mem_of_mem_head? member)))
      (fun c member => isBlank_of_isDigit (isDigit c (List.mem_of_getLast? member)))
  rw [readKeyword, context, plural, id, List.append_assoc, afterPrefix?_append]
  simp only [splitOnce_append ']' _ rest unbracketed, solid, readIndex_toDigits fits]

/-! ## Room for a form -/

theorem maxIndex_lt_wordMax : maxIndex < wordMax := by decide

theorem maxIndex_lt_stringCapacity : maxIndex < stringCapacity := by decide

/-- Growing the strings to hold a form up to `maxIndex` does not panic. -/
theorem growPanic?_of_le {length i : Nat} (fits : i ≤ maxIndex) : growPanic? length i = none := by
  have capacity := maxIndex_lt_stringCapacity
  unfold growPanic?
  exact if_pos (Or.inr (by omega))

/-- A form that strings of at most `maxIndex + 1` hold, or grow to hold without a panic, lies at
most at `maxIndex`. -/
theorem le_maxIndex_of_growPanic? {length i : Nat} (room : growPanic? length i = none)
    (bounded : length ≤ maxIndex + 1) : i ≤ maxIndex := by
  unfold growPanic? at room
  split_ifs at room with grown
  rcases grown with held | within
  · omega
  · unfold maxIndex
    omega

/-! ## Forms padded into place -/

theorem length_setPadded (xs : List String) (i : Nat) (v : String) :
    (setPadded xs i v).length = max xs.length (i + 1) := by
  simp [setPadded]
  omega

theorem getElem?_setPadded (xs : List String) (i : Nat) (v : String) :
    (setPadded xs i v)[i]? = some v := by
  have long : i < (xs ++ List.replicate (i + 1 - xs.length) "").length := by
    simp
    omega
  simp [setPadded, List.getElem?_set_self long]

theorem setPadded_setPadded (xs : List String) (i : Nat) (v w : String) :
    setPadded (setPadded xs i v) i w = setPadded xs i w := by
  have long : i + 1 - (setPadded xs i v).length = 0 := by
    rw [length_setPadded]
    omega
  rw [setPadded, long, List.replicate_zero, List.append_nil, setPadded, List.set_set]
  rfl

/-- Setting the form just past the last one appends it. -/
theorem setPadded_length (xs : List String) (v : String) :
    setPadded xs xs.length v = xs ++ [v] := by
  simp [setPadded]

/-- Changing a field twice is changing it once by both changes. -/
theorem Entry.modifyField_modifyField (e : Entry) (field : Field) (f g : String → String) :
    (e.modifyField field f).modifyField field g = e.modifyField field (g ∘ f) := by
  cases field <;> simp [Entry.modifyField, getElem?_setPadded, setPadded_setPadded]

/-! ## Lines -/

/-- The text that marks a line of an obsolete entry. -/
def marker (obsolete : Bool) : String := if obsolete then "#~ " else ""

/-- The draft after a keyword line sets `field` to `value`; `obsolete` tells whether the line
was marked as obsolete. -/
def Draft.keyed (d : Draft) (obsolete : Bool) (field : Field) (value : String) : Draft where
  entry := (if obsolete then { d.entry with obsolete := true } else d.entry).modifyField field
    fun _ => value
  field := some field
  seenId := match field with
    | .id => true
    | _ => d.seenId
  seenStr := match field with
    | .str _ => true
    | _ => d.seenStr

namespace ReadState

theorem lines_append (s : ReadState) (n : Nat) (xs ys : List (List Char)) :
    s.lines n (xs ++ ys) = (s.lines n xs) >>= fun s' => s'.lines (n + xs.length) ys := by
  induction xs generalizing s n with
  | nil => rfl
  | cons x xs ih =>
    simp only [List.cons_append, ReadState.lines]
    cases s.line n x with
    | error e => rfl
    | ok s' =>
      simp only [bind, Except.bind, ih, List.length_cons]
      rw [Nat.add_assoc, Nat.add_comm 1]

/-- Lines after lines that read to `t` are read from `t`. -/
theorem lines_append_of_ok {s t : ReadState} {n : Nat} {xs : List (List Char)}
    (read : s.lines n xs = .ok t) (ys : List (List Char)) :
    s.lines n (xs ++ ys) = t.lines (n + xs.length) ys := by
  rw [lines_append, read]
  rfl

/-- The reader trims every line, so a carriage return that ends one changes nothing. -/
theorem line_stripReturn (s : ReadState) (n : Nat) (raw : List Char) :
    s.line n (stripReturn raw) = s.line n raw := by
  simp only [ReadState.line, trimBlank_stripReturn]

theorem lines_stripReturn (s : ReadState) (n : Nat) (raws : List (List Char)) :
    s.lines n (raws.map stripReturn) = s.lines n raws := by
  induction raws generalizing s n with
  | nil => rfl
  | cons raw raws ih => simp only [List.map_cons, ReadState.lines, line_stripReturn, ih]

/-- A blank line ends the entry being read. -/
theorem line_blank (s : ReadState) (n : Nat) {raw : List Char} (blank : trimBlank raw = []) :
    s.line n raw = .ok s.finish := by
  simp [ReadState.line, blank]

/-- A comment line of a live entry. -/
theorem line_comment (s : ReadState) (n : Nat) {raw body : List Char}
    (trimmed : trimBlank raw = '#' :: body) (live : body.head? ≠ some '~') :
    s.line n raw = .ok (s.comment body) := by
  have unmarked : afterPrefix? ['#', '~'] ('#' :: body) = none := by
    cases body with
    | nil => rfl
    | cons c rest =>
      have different : '~' ≠ c := fun same => live (by simp [← same])
      simp [afterPrefix?, different]
  simp [ReadState.line, trimmed, unmarked]

/-- A keyword line, marked as obsolete or not. -/
theorem line_keyword (s : ReadState) (n : Nat) (obs : Bool) {raw body : List Char}
    (trimmed : trimBlank raw = (marker obs).toList ++ body) (starts : body.head? = some 'm') :
    s.line n raw = s.keyword n obs body := by
  obtain ⟨rest, rfl⟩ : ∃ rest, body = 'm' :: rest := by
    cases body with
    | nil => simp at starts
    | cons c rest => exact ⟨rest, by simpa using starts⟩
  cases obs with
  | false =>
    have unmarked : afterPrefix? ['#', '~'] ('m' :: rest) = none := rfl
    simp [ReadState.line, trimmed, marker, unmarked]
  | true =>
    have marked : afterPrefix? ['#', '~'] ('#' :: '~' :: ' ' :: 'm' :: rest) =
        some (' ' :: 'm' :: rest) := rfl
    have front : dropBlank (' ' :: 'm' :: rest) = 'm' :: rest := rfl
    simp [ReadState.line, trimmed, marker, marked, front]

/-- A line that holds a quoted string continues the last field, marked as obsolete or not. -/
theorem line_continued (s : ReadState) (n : Nat) (obs : Bool) {raw body : List Char}
    {field : Field} {value : String}
    (trimmed : trimBlank raw = (marker obs).toList ++ body) (starts : body.head? = some '"')
    (last : s.draft.field = some field) (quoted : unquote body = .ok value) :
    s.line n raw = .ok (s.edit fun e => e.modifyField field (· ++ value)) := by
  obtain ⟨rest, rfl⟩ : ∃ rest, body = '"' :: rest := by
    cases body with
    | nil => simp at starts
    | cons c rest => exact ⟨rest, by simpa using starts⟩
  cases obs with
  | false =>
    have unmarked : afterPrefix? ['#', '~'] ('"' :: rest) = none := rfl
    simp [ReadState.line, trimmed, marker, unmarked, last, quoted, Except.mapError]
  | true =>
    have marked : afterPrefix? ['#', '~'] ('#' :: '~' :: ' ' :: '"' :: rest) =
        some (' ' :: '"' :: rest) := rfl
    have front : dropBlank (' ' :: '"' :: rest) = '"' :: rest := rfl
    simp [ReadState.line, trimmed, marker, marked, front, last, quoted, Except.mapError]

/-- A keyword line whose string reads sets its field; a context or id starts no new entry while
no string has been seen. -/
theorem keyword_eq {s : ReadState} {n : Nat} {obs : Bool} {line rest : List Char}
    {field : Field} {value : String}
    (read : readKeyword n line = .ok (field, rest)) (quoted : unquote rest = .ok value)
    (bounded : ∀ i, field = .str i → i ≤ maxIndex)
    (fresh : field = .context ∨ field = .id → s.draft.seenStr = false) :
    s.keyword n obs line = .ok { s with draft := s.draft.keyed obs field value } := by
  cases field <;> cases obs <;>
    simp_all [ReadState.keyword, Draft.keyed, ReadState.edit, Except.mapError, bind,
      Except.bind, pure, Except.pure, Entry.growPanic?, growPanic?_of_le]

/-- The state a keyword line for `field` starts from: a context or id after a string ends the
entry being read. -/
def before (s : ReadState) (field : Field) : ReadState :=
  match field with
  | .context | .id => if s.draft.seenStr then s.finish else s
  | _ => s

/-- A keyword line starts from the state as it is, or with the entry being read ended. -/
theorem before_eq_or_finish (s : ReadState) (field : Field) :
    s.before field = s ∨ s.before field = s.finish := by
  cases field <;> by_cases seen : s.draft.seenStr <;> simp [before, seen]

/-- What a keyword line does: when its keyword and its string read and its field needs no
growing that panics, it sets the field, after ending the entry being read if a context or id
follows a string; otherwise it fails. -/
theorem keyword_eq_ok {s s' : ReadState} {n : Nat} {obs : Bool} {line : List Char}
    (read : s.keyword n obs line = .ok s') :
    ∃ field rest value, readKeyword n line = .ok (field, rest) ∧ unquote rest = .ok value ∧
      (s.before field).draft.entry.growPanic? field = none ∧
      s' = { s.before field with draft := (s.before field).draft.keyed obs field value } := by
  unfold ReadState.keyword at read
  cases keyword : readKeyword n line with
  | error e => simp [keyword, bind, Except.bind, Except.mapError] at read
  | ok pair =>
    obtain ⟨field, rest⟩ := pair
    cases quoted : unquote rest with
    | error e => simp [keyword, quoted, bind, Except.bind, Except.mapError] at read
    | ok value =>
      refine ⟨field, rest, value, rfl, quoted, ?_⟩
      simp only [keyword, quoted, bind, Except.bind, Except.mapError, pure, Except.pure] at read
      -- marking the entry obsolete leaves its strings, so the room is that of `s.before field`
      cases field <;> cases obs <;>
        simp_all [before, Draft.keyed, ReadState.edit, Entry.growPanic?] <;>
        split at read <;> simp_all

end ReadState

end Localize.Po
