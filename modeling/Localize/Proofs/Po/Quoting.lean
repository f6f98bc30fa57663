import Localize.Proofs.Po.Writing

/-! # Quoted strings and the lines of a field

The printer writes a string between double quotes with `escape`, which works character by
character (`escape_append`) and changes exactly the five characters of `escapedChars`, each into
a backslash and a letter: a text is left as it is just when it holds none of them
(`escape_eq_self_iff`, from the length count `length_encode`). Reading the quoted text gives the
string back (`unquote_escape`).

A field is written on one line, or, when its value has a newline before its last character
(`hasInnerNewline_iff`), as an empty string followed by one quoted line per newline-ended piece.
Whatever the reader had read before, these lines set the field to the value: a context or id
after a string first ends the entry being read (`ReadState.keyword_before`), and from there the
lines read as from a fresh entry (`ReadState.lines_fieldLines_before`). Together this is
`string_fields_roundTrip`.
-/

namespace Localize.Po

open Localize.Text

/-! ## Escaping -/

/-- The characters that escaping writes as a backslash and a letter. -/
def escapedChars : List Char := ['\\', '"', '\n', '\t', '\r']

theorem encode_append (xs ys : List Char) : encode (xs ++ ys) = encode xs ++ encode ys := by
  induction xs with
  | nil => rfl
  | cons c xs ih =>
    rw [List.cons_append]
    conv_lhs => unfold encode
    conv_rhs => arg 1; unfold encode
    rw [ih]
    split <;> rfl

theorem escape_append (v w : String) : escape (v ++ w) = escape v ++ escape w := by
  simp [escape, encode_append]

/-- Each escaped character takes two characters, and every other one takes one. -/
theorem length_encode (cs : List Char) :
    (encode cs).length = cs.length + cs.countP (· ∈ escapedChars) := by
  induction cs with
  | nil => rfl
  | cons c cs ih =>
    unfold encode
    split <;> simp_all [escapedChars] <;> omega

theorem encode_eq_self_iff (cs : List Char) : encode cs = cs ↔ ∀ c ∈ cs, c ∉ escapedChars := by
  constructor
  · intro same
    -- escaping adds one character per escaped one, so none was there
    have count := congrArg List.length same
    rw [length_encode] at count
    simpa using List.countP_eq_zero.mp (by omega : cs.countP (· ∈ escapedChars) = 0)
  · intro plain
    induction cs with
    | nil => rfl
    | cons c cs ih =>
      have kept : c ∉ escapedChars := plain c List.mem_cons_self
      have rest := ih fun d member => plain d (List.mem_cons_of_mem c member)
      unfold encode
      split <;> simp_all [escapedChars]

/-- Escaping leaves a text as it is exactly when it holds none of the escaped characters. -/
theorem escape_eq_self_iff (v : String) : escape v = v ↔ ∀ c ∈ v.toList, c ∉ escapedChars := by
  rw [← encode_eq_self_iff, escape, ← String.toList_inj, String.toList_ofList]

/-- A string escaped between quotes reads back as itself. -/
theorem unquote_escape (v : String) : unquote ("\"" ++ escape v ++ "\"").toList = .ok v := by
  have text : ("\"" ++ escape v ++ "\"").toList = [] ++ '"' :: (encode v.toList ++ ['"']) := by
    simp [escape]
  rw [text, unquote_quoted (by simp) v.toList, String.ofList_toList]

/-! ## The form of a field's lines -/

/-- A string is written over several lines just when it has a newline before its last
character. -/
theorem hasInnerNewline_iff (v : String) :
    hasInnerNewline v = true ↔ ∃ a b, v.toList = a ++ '\n' :: b ∧ b ≠ [] := by
  unfold hasInnerNewline
  constructor
  · intro inner
    split at inner
    · rename_i nl c rest split_at
      have nonempty : v.toList.dropWhile (· != '\n') ≠ [] := by simp [split_at]
      have newline : nl = '\n' := by
        have head := List.head_dropWhile_not (fun x : Char => x != '\n') nonempty
        simpa [split_at] using head
      subst newline
      refine ⟨v.toList.takeWhile (· != '\n'), c :: rest, ?_, by simp⟩
      rw [← split_at, List.takeWhile_append_dropWhile]
    · cases inner
  · rintro ⟨a, b, whole, nonempty⟩
    obtain ⟨c, cs, rfl⟩ := List.exists_cons_of_ne_nil nonempty
    have longer : ∃ x y rest, v.toList.dropWhile (· != '\n') = x :: y :: rest := by
      rw [whole, List.dropWhile_append]
      split
      · -- the first newline is the one given, and something follows it
        exact ⟨'\n', c, cs, by simp⟩
      · -- a newline of `a` comes first, and the one given follows it
        rename_i found
        have nonempty : a.dropWhile (· != '\n') ≠ [] := fun empty => found (by rw [empty]; rfl)
        obtain ⟨x, xs, split_at⟩ := List.exists_cons_of_ne_nil nonempty
        rw [split_at]
        cases xs with
        | nil => exact ⟨x, '\n', c :: cs, rfl⟩
        | cons y ys => exact ⟨x, y, ys ++ '\n' :: c :: cs, rfl⟩
    obtain ⟨x, y, rest, split_at⟩ := longer
    rw [split_at]

/-- The keywords the printer writes a string with, and the field each sets. A form index is at
most `maxIndex`, as it indexes a list of strings. -/
inductive PrintedKeyword : String → Field → Prop
  | msgctxt : PrintedKeyword "msgctxt" .context
  | msgid : PrintedKeyword "msgid" .id
  | msgidPlural : PrintedKeyword "msgid_plural" .idPlural
  | msgstr : PrintedKeyword "msgstr" (.str 0)
  | form {i : Nat} (fits : i ≤ maxIndex) : PrintedKeyword ("msgstr[" ++ toString i ++ "]") (.str i)

/-- A printed keyword starts with `m`, reads as its field, and indexes a form the reader has
room for. -/
theorem PrintedKeyword.reads {kw : String} {field : Field} (keyword : PrintedKeyword kw field) :
    kw.toList.head? = some 'm' ∧
      (∀ m rest, readKeyword m (kw.toList ++ ' ' :: rest) = .ok (field, ' ' :: rest)) ∧
      ∀ i, field = .str i → i ≤ maxIndex := by
  cases keyword with
  | msgctxt => exact ⟨rfl, fun m rest => readKeyword_msgctxt m _, by simp⟩
  | msgid => exact ⟨rfl, fun m rest => readKeyword_msgid m rest, by simp⟩
  | msgidPlural => exact ⟨rfl, fun m rest => readKeyword_msgid_plural m _, by simp⟩
  | msgstr => exact ⟨rfl, fun m rest => readKeyword_msgstr m rest, by simp⟩
  | @form i fits =>
    refine ⟨by simp, fun m rest => ?_, by simpa using fits⟩
    have spelled : ("msgstr[" ++ toString i ++ "]").toList ++ ' ' :: rest =
        "msgstr[".toList ++ Nat.toDigits 10 i ++ ']' :: ' ' :: rest := by
      simp [← Nat.toList_repr]
    rw [spelled, readKeyword_msgstr_index m (fits.trans maxIndex_lt_wordMax.le)]

/-- The lines of a field start with a keyword line. -/
theorem fieldLines_eq_cons (pre kw v : String) :
    ∃ w rest, fieldLines pre kw v = (pre ++ kw ++ " \"" ++ escape w ++ "\"") :: rest := by
  unfold fieldLines
  split
  · have opening : pre ++ kw ++ " \"\"" = pre ++ kw ++ " \"" ++ escape "" ++ "\"" := by
      simp [escape, encode, String.append_assoc]
    exact ⟨"", _, by rw [opening]⟩
  · exact ⟨v, [], rfl⟩

namespace ReadState

@[simp] theorem finish_draft (s : ReadState) : s.finish.draft = {} := by
  unfold finish
  split <;> rfl

/-- A context or id line starts from a state that has seen no string. -/
theorem seenStr_before (s : ReadState) {field : Field} (starts : field = .context ∨ field = .id) :
    (s.before field).draft.seenStr = false := by
  rcases starts with rfl | rfl <;> cases seen : s.draft.seenStr <;> simp [before, seen]

/-- A keyword line does what it does from the state it starts from: a context or id after a
string ends the entry being read first. -/
theorem keyword_before (s : ReadState) (n : Nat) (obs : Bool) {line rest : List Char}
    {field : Field} (read : readKeyword n line = .ok (field, rest)) :
    s.keyword n obs line = (s.before field).keyword n obs line := by
  cases field with
  | context | id =>
    cases seen : s.draft.seenStr
    · simp [before, seen]
    · simp [before, seen, ReadState.keyword, read, Except.mapError, bind, Except.bind]
  | idPlural | str i => rfl

/-- **The lines of a field set the field to its value**, whatever the reader had read before:
from the state the keyword line starts from, the draft holds the value in that field. -/
theorem lines_fieldLines_before (s : ReadState) (n : Nat) (obs : Bool) {kw : String}
    {field : Field} (keyword : PrintedKeyword kw field) (v : String) :
    s.lines n ((fieldLines (marker obs) kw v).map String.toList) =
      .ok { s.before field with draft := (s.before field).draft.keyed obs field v } := by
  obtain ⟨starts, read, bounded⟩ := keyword.reads
  have fresh : field = .context ∨ field = .id → (s.before field).draft.seenStr = false :=
    seenStr_before s
  rw [← lines_fieldLines (s.before field) n obs v starts read bounded fresh]
  -- the first line is a keyword line, which reads the same from either state
  obtain ⟨w, rest, first⟩ := fieldLines_eq_cons (marker obs) kw v
  rw [first, List.map_cons, ReadState.lines, ReadState.lines, line_keyedLine s n obs w starts,
    line_keyedLine (s.before field) n obs w starts, keyword_before s n obs (read n _)]

end ReadState

/-- **String fields round-trip.** A string escaped between quotes reads back as itself; escaping
works character by character and leaves a text as it is exactly when it holds none of backslash,
double quote, newline, tab and carriage return. A field is written as an empty string and one
quoted line per newline-ended piece when its value has a newline before its last character, and
on one line otherwise; for every keyword the printer writes, reading those lines sets the field
to the value, whatever the reader had read before. -/
theorem string_fields_roundTrip :
    (∀ v : String, unquote ("\"" ++ escape v ++ "\"").toList = .ok v) ∧
    (∀ v w : String, escape (v ++ w) = escape v ++ escape w) ∧
    (∀ v : String, escape v = v ↔ ∀ c ∈ v.toList, c ∉ escapedChars) ∧
    (∀ pre kw v : String, (∃ a b, v.toList = a ++ '\n' :: b ∧ b ≠ []) →
      fieldLines pre kw v = (pre ++ kw ++ " \"\"") ::
        (pieces v.toList).map fun piece => pre ++ "\"" ++ escape (String.ofList piece) ++ "\"") ∧
    (∀ pre kw v : String, (¬∃ a b, v.toList = a ++ '\n' :: b ∧ b ≠ []) →
      fieldLines pre kw v = [pre ++ kw ++ " \"" ++ escape v ++ "\""]) ∧
    ∀ (s : ReadState) (n : Nat) (obs : Bool) (kw : String) (field : Field) (v : String),
      PrintedKeyword kw field →
      s.lines n ((fieldLines (marker obs) kw v).map String.toList) =
        .ok { s.before field with draft := (s.before field).draft.keyed obs field v } := by
  refine ⟨unquote_escape, escape_append, escape_eq_self_iff, fun pre kw v inner => ?_,
    fun pre kw v single => ?_, fun s n obs kw field v keyword =>
      ReadState.lines_fieldLines_before s n obs keyword v⟩
  · rw [fieldLines, if_pos ((hasInnerNewline_iff v).mpr inner)]
  · rw [fieldLines, if_neg (mt (hasInnerNewline_iff v).mp single)]

end Localize.Po
