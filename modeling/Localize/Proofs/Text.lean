import Localize.Text.Blank
import Localize.Text.Find
import Mathlib.Data.List.TakeWhile
import Mathlib.Data.List.Basic

/-! # Lines, blanks and words

What the catalog reader needs to know about cutting text. A text made of lines, each ended by a
newline, cuts back into the same lines (`lines_flatMap`) as long as no line holds a newline,
except that a carriage return ending a line is dropped, which trimming would drop anyway
(`trimBlank_stripReturn`); and no line of any text holds a newline
(`newline_not_mem_of_mem_lines`). Trimming leaves alone a text whose first and last characters
are not blank (`trimBlank_eq_self`). The words of a text that writes a space before each word
are those words (`words_spaced`), and a word is never empty and holds no blank (`mem_words`).
-/

namespace Localize.Text

theorem pieces_nil : pieces [] = [] := by
  rw [pieces]
  rfl

theorem pieces_newline (l rest : List Char) (h : '\n' ∉ l) :
    pieces (l ++ '\n' :: rest) = (l ++ ['\n']) :: pieces rest := by
  have keep : ∀ c ∈ l, (c != '\n') = true := by
    intro c member
    simpa using fun same : c = '\n' => h (same ▸ member)
  have dropped : (l ++ '\n' :: rest).dropWhile (· != '\n') = '\n' :: rest := by
    simp [List.dropWhile_append_of_pos keep]
  have taken : (l ++ '\n' :: rest).takeWhile (· != '\n') = l := by
    simp [List.takeWhile_append_of_pos keep]
  rw [pieces]
  split
  · rename_i empty
    rw [dropped] at empty
    cases empty
  · rename_i nl after split_at
    rw [dropped, List.cons.injEq] at split_at
    obtain ⟨rfl, rfl⟩ := split_at
    rw [taken]

/-- No digit is blank. -/
theorem isBlank_of_isDigit {c : Char} (digit : c.isDigit = true) : isBlank c = false := by
  have zero : '0'.val.toNat = 48 := rfl
  have nine : '9'.val.toNat = 57 := rfl
  simp only [Char.isDigit, Bool.and_eq_true, decide_eq_true_eq, UInt32.le_iff_toNat_le, zero,
    nine] at digit
  simp only [isBlank, Bool.or_eq_false_iff, Bool.and_eq_false_iff, decide_eq_false_iff_not,
    beq_eq_false_iff_ne, ne_eq, UInt32.le_iff_toNat_le, ← UInt32.toNat_inj, UInt32.reduceToNat]
  omega

theorem splitOnce_append (sep : Char) (l rest : List Char) (h : sep ∉ l) :
    splitOnce sep (l ++ sep :: rest) = some (l, rest) := by
  have keep : ∀ c ∈ l, (c != sep) = true := by
    intro c member
    simpa using fun same : c = sep => h (same ▸ member)
  simp [splitOnce, List.dropWhile_append_of_pos keep, List.takeWhile_append_of_pos keep]

/-- A piece is a line without newline, followed by its newline when it has one. -/
theorem mem_pieces {cs p : List Char} (h : p ∈ pieces cs) :
    (∃ q, p = q ++ ['\n'] ∧ '\n' ∉ q) ∨ '\n' ∉ p := by
  fun_induction pieces cs with
  | case1 => simp at h
  | case2 cs rest _ =>
    rw [List.mem_singleton.mp h]
    right
    intro member
    simpa using List.dropWhile_eq_nil_iff.mp rest '\n' member
  | case3 cs nl after split_at ih =>
    rcases List.mem_cons.mp h with rfl | later
    · have newline : nl = '\n' := by
        have nonempty : cs.dropWhile (fun x : Char => x != '\n') ≠ [] := by simp [split_at]
        have head := List.head_dropWhile_not (fun x : Char => x != '\n') nonempty
        simpa [split_at] using head
      refine .inl ⟨_, by rw [newline], fun member => ?_⟩
      simpa using List.mem_takeWhile_imp member
    · exact ih later

/-- No line of a text holds a newline. -/
theorem newline_not_mem_of_mem_lines {cs line : List Char} (h : line ∈ lines cs) :
    '\n' ∉ line := by
  obtain ⟨p, member, rfl⟩ := List.mem_map.mp h
  rcases mem_pieces member with ⟨q, rfl, missing⟩ | missing
  · have dropped : ∀ r : List Char, '\n' ∉ r → '\n' ∉ r.dropLast := fun r absent inside =>
      absent ((List.dropLast_prefix r).subset inside)
    simp only [List.getLast?_concat, List.dropLast_concat]
    split <;> simp_all
  · split
    · rename_i last
      exact absurd (List.mem_of_getLast? last) missing
    · exact missing

/-- A line without the carriage return that ends it, if any, as `lines` takes it. -/
def stripReturn (l : List Char) : List Char := if l.getLast? == some '\r' then l.dropLast else l

/-- Only the end of a line can lose a carriage return. -/
theorem stripReturn_append_cons (xs : List Char) (c : Char) (ys : List Char) :
    stripReturn (xs ++ c :: ys) = xs ++ stripReturn (c :: ys) := by
  unfold stripReturn
  rw [List.getLast?_append_of_ne_nil _ (List.cons_ne_nil c ys)]
  split
  · rw [List.dropLast_append_of_ne_nil (List.cons_ne_nil c ys)]
  · rfl

theorem lines_newline (l rest : List Char) (h : '\n' ∉ l) :
    lines (l ++ '\n' :: rest) = stripReturn l :: lines rest := by
  simp [lines, pieces_newline l rest h, stripReturn]

/-- Lines that each end with a newline are read back as themselves, less a carriage return
that ends one, as long as none holds a newline. -/
theorem lines_flatMap (ls : List (List Char)) (h : ∀ l ∈ ls, '\n' ∉ l) :
    lines (ls.flatMap (· ++ ['\n'])) = ls.map stripReturn := by
  induction ls with
  | nil => simp [lines, pieces_nil]
  | cons l ls ih =>
    rw [List.flatMap_cons, List.append_assoc, List.singleton_append,
      lines_newline l _ (h l List.mem_cons_self),
      ih fun m member => h m (List.mem_cons_of_mem l member), List.map_cons]

/-- The pieces of a text join back to the text. -/
theorem flatten_pieces (cs : List Char) : (pieces cs).flatten = cs := by
  fun_induction pieces cs with
  | case1 cs _ empty => simpa using empty
  | case2 cs _ _ => simp
  | case3 cs nl after split_at ih =>
    rw [List.flatten_cons, ih, List.append_assoc, List.singleton_append, ← split_at,
      List.takeWhile_append_dropWhile]

/-- A text of spaces is blank. -/
theorem blank_space : ∀ c ∈ [' '], isBlank c = true := by
  intro c member
  rw [List.mem_singleton.mp member]
  decide

theorem dropBlank_cons_of_blank {c : Char} (blank : isBlank c = true) (cs : List Char) :
    dropBlank (c :: cs) = dropBlank cs := by
  simp [dropBlank, blank]

theorem dropBlank_cons_of_not_blank {c : Char} (solid : isBlank c = false) (cs : List Char) :
    dropBlank (c :: cs) = c :: cs := by
  simp [dropBlank, solid]

theorem dropBlank_blank_append {pre : List Char} (blank : ∀ c ∈ pre, isBlank c = true)
    (cs : List Char) : dropBlank (pre ++ cs) = dropBlank cs := by
  rw [dropBlank, List.dropWhile_append_of_pos blank]
  rfl

theorem trimBlank_blank_append {pre : List Char} (blank : ∀ c ∈ pre, isBlank c = true)
    (cs : List Char) : trimBlank (pre ++ cs) = trimBlank cs := by
  rw [trimBlank, trimBlank, dropBlank_blank_append blank]

/-- Trimming leaves a text alone when neither its first nor its last character is blank. -/
theorem trimBlank_eq_self {cs : List Char} (first : ∀ c ∈ cs.head?, isBlank c = false)
    (last : ∀ c ∈ cs.getLast?, isBlank c = false) : trimBlank cs = cs := by
  rcases List.eq_nil_or_concat cs with empty | ⟨init, c, rfl⟩
  · subst empty
    rfl
  · have solid : isBlank c = false := last c (by simp)
    have front : dropBlank (init ++ [c]) = init ++ [c] := by
      cases init with
      | nil => exact dropBlank_cons_of_not_blank solid []
      | cons d ds => exact dropBlank_cons_of_not_blank (first d (by simp)) _
    simp [trimBlank, dropBlankEnd, front, dropBlank_cons_of_not_blank solid]

/-- Blocks of lines, each line ended by a newline and the blocks joined with newlines, are the
lines of the blocks with an empty line between two blocks. -/
theorem intercalate_blocks (blocks : List (List (List Char))) :
    ['\n'].intercalate (blocks.map fun b => b.flatMap (· ++ ['\n'])) =
      List.flatMap (· ++ ['\n']) (List.intercalate [[]] blocks) := by
  induction blocks with
  | nil => rfl
  | cons b bs ih =>
    cases bs with
    | nil => simp
    | cons c cs =>
      simp only [List.map_cons] at ih ⊢
      rw [List.intercalate_cons_cons, ih, List.intercalate_cons_cons, List.flatMap_append,
        List.flatMap_append]
      simp

/-- A blank at the end of a text is trimmed away. -/
theorem trimBlank_append_blank {c : Char} (blank : isBlank c = true) (cs : List Char) :
    trimBlank (cs ++ [c]) = trimBlank cs := by
  unfold trimBlank dropBlankEnd dropBlank
  rw [List.dropWhile_append]
  split
  · rename_i empty
    have none : cs.dropWhile isBlank = [] := by simpa using empty
    simp [none, blank]
  · simp [blank]

theorem trimBlank_stripReturn (l : List Char) : trimBlank (stripReturn l) = trimBlank l := by
  unfold stripReturn
  split
  · rename_i last
    obtain ⟨init, rfl⟩ : ∃ init, l = init ++ ['\r'] := by
      rcases List.eq_nil_or_concat l with rfl | ⟨init, c, rfl⟩
      · simp at last
      · simp at last
        exact ⟨init, by rw [last, List.concat_eq_append]⟩
    rw [List.dropLast_concat, trimBlank_append_blank (by decide)]
  · rfl

/-- Trimming keeps a part of the text. -/
theorem trimBlank_sublist (cs : List Char) : (trimBlank cs).Sublist cs := by
  have ends : (dropBlankEnd (dropBlank cs)).Sublist (dropBlank cs) := by
    simpa [dropBlankEnd, dropBlank] using
      (List.dropWhile_suffix isBlank (l := (dropBlank cs).reverse)).sublist.reverse
  exact ends.trans (List.dropWhile_suffix isBlank).sublist

/-- A text whose first and last characters are not blank; the empty text is one. -/
def SolidEnds (cs : List Char) : Prop :=
  (∀ c ∈ cs.head?, isBlank c = false) ∧ ∀ c ∈ cs.getLast?, isBlank c = false

/-- The first character left after dropping leading blanks is not blank. -/
theorem isBlank_of_mem_head?_dropBlank {cs : List Char} {c : Char}
    (member : c ∈ (dropBlank cs).head?) : isBlank c = false := by
  cases split_at : dropBlank cs with
  | nil => simp [split_at] at member
  | cons d ds =>
    rw [split_at, List.head?_cons, Option.mem_some_iff] at member
    exact member ▸ isBlank_of_dropBlank_eq_cons split_at

/-- A trimmed text has solid ends. -/
theorem solidEnds_trimBlank (cs : List Char) : SolidEnds (trimBlank cs) := by
  have within : trimBlank cs <+: dropBlank cs := by
    have := (List.dropWhile_suffix isBlank (l := (dropBlank cs).reverse)).reverse
    simpa [trimBlank, dropBlankEnd, dropBlank] using this
  refine ⟨fun c member => ?_, fun c member => ?_⟩
  · have front : c ∈ (dropBlank cs).head? := by
      obtain ⟨rest, split_at⟩ := within
      rw [← split_at, List.head?_append, Option.mem_def.mp member]
      rfl
    exact isBlank_of_mem_head?_dropBlank front
  · have front : c ∈ (dropBlank (dropBlank cs).reverse).head? := by
      simpa [trimBlank, dropBlankEnd] using member
    exact isBlank_of_mem_head?_dropBlank front

theorem words_of_dropBlank_nil {cs : List Char} (h : dropBlank cs = []) : words cs = [] := by
  rw [words]
  split <;> simp_all

theorem words_of_dropBlank_cons {cs rest : List Char} {c : Char} (h : dropBlank cs = c :: rest) :
    words cs = (c :: rest).takeWhile (fun d => !isBlank d) ::
      words ((c :: rest).dropWhile fun d => !isBlank d) := by
  rw [words]
  split <;> simp_all

/-- Every word is a non-empty run of characters of the text, none of them blank. -/
theorem mem_words {cs w : List Char} (h : w ∈ words cs) :
    w ≠ [] ∧ ∀ c ∈ w, isBlank c = false ∧ c ∈ cs := by
  fun_induction words cs with
  | case1 cs empty => simp_all
  | case2 cs c rest front ih =>
    have within : ∀ d ∈ c :: rest, d ∈ cs := fun d member =>
      (List.dropWhile_suffix isBlank).subset (by rwa [← dropBlank, front])
    rcases List.mem_cons.mp h with rfl | later
    · refine ⟨by simp [isBlank_of_dropBlank_eq_cons front], fun d member => ?_⟩
      exact ⟨by simpa using List.mem_takeWhile_imp member,
        within d ((List.takeWhile_prefix _).subset member)⟩
    · obtain ⟨nonempty, solid⟩ := ih later
      exact ⟨nonempty, fun d member =>
        ⟨(solid d member).1, within d ((List.dropWhile_suffix _).subset (solid d member).2)⟩⟩

theorem takeWhile_spaced (rs : List (List Char)) :
    (rs.flatMap (' ' :: ·)).takeWhile (fun d => !isBlank d) = [] := by
  cases rs <;> simp [isBlank]

theorem dropWhile_spaced (rs : List (List Char)) :
    (rs.flatMap (' ' :: ·)).dropWhile (fun d => !isBlank d) = rs.flatMap (' ' :: ·) := by
  cases rs <;> simp [isBlank]

/-- Words do not see a blank in front. -/
theorem words_blank_cons {b : Char} (blank : isBlank b = true) (cs : List Char) :
    words (b :: cs) = words cs := by
  have front := dropBlank_cons_of_blank blank cs
  cases found : dropBlank cs with
  | nil => rw [words_of_dropBlank_nil found, words_of_dropBlank_nil (front.trans found)]
  | cons c rest => rw [words_of_dropBlank_cons found, words_of_dropBlank_cons (front.trans found)]

/-- A run that stops at the end of a text stops at the same place before a tail that does not
start with a character of the run. -/
theorem takeWhile_append_of_stop {p : Char → Bool} {tail : List Char}
    (stop : ∀ c ∈ tail.head?, p c = false) (cs : List Char) :
    (cs ++ tail).takeWhile p = cs.takeWhile p ∧
      (cs ++ tail).dropWhile p = cs.dropWhile p ++ tail := by
  have none : tail.takeWhile p = [] ∧ tail.dropWhile p = tail := by
    cases tail with
    | nil => exact ⟨rfl, rfl⟩
    | cons c rest => simp [stop c rfl]
  rw [List.takeWhile_append, List.dropWhile_append, none.1, none.2]
  constructor
  · split
    · rename_i whole
      rw [List.append_nil, List.takeWhile_eq_self_iff.mpr
        ((List.takeWhile_eq_self_iff (l := cs)).mp (List.IsPrefix.eq_of_length
          (List.takeWhile_prefix p) whole))]
    · rfl
  · split
    · rename_i empty
      rw [List.isEmpty_iff.mp empty, List.nil_append]
    · rfl

/-- Words do not see blanks at the end. -/
theorem words_append_blank {tail : List Char} (blank : ∀ c ∈ tail, isBlank c = true)
    (cs : List Char) : words (cs ++ tail) = words cs := by
  fun_induction words cs with
  | case1 cs empty =>
    apply words_of_dropBlank_nil
    rw [dropBlank, List.dropWhile_append, ← dropBlank, empty]
    exact List.dropWhile_eq_nil_iff.mpr fun c member => blank c member
  | case2 cs c rest front ih =>
    have moved : dropBlank (cs ++ tail) = c :: (rest ++ tail) := by
      rw [dropBlank, List.dropWhile_append, ← dropBlank, front]
      rfl
    have stop : ∀ d ∈ tail.head?, (!isBlank d) = false := fun d first => by
      simp [blank d (List.mem_of_mem_head? first)]
    obtain ⟨taken, dropped⟩ := takeWhile_append_of_stop stop (c :: rest)
    rw [words_of_dropBlank_cons moved, ← List.cons_append, taken, dropped, ih]

/-- A text is its part without trailing blanks followed by blanks. -/
theorem dropBlankEnd_append (cs : List Char) :
    ∃ tail, cs = dropBlankEnd cs ++ tail ∧ ∀ c ∈ tail, isBlank c = true := by
  refine ⟨(cs.reverse.takeWhile isBlank).reverse, ?_, fun c member => ?_⟩
  · have split : cs.reverse.takeWhile isBlank ++ cs.reverse.dropWhile isBlank = cs.reverse :=
      List.takeWhile_append_dropWhile
    calc cs = (cs.reverse.takeWhile isBlank ++ cs.reverse.dropWhile isBlank).reverse := by
          rw [split, List.reverse_reverse]
      _ = _ := by rw [List.reverse_append]; rfl
  · exact List.mem_takeWhile_imp (List.mem_reverse.mp member)

theorem words_dropBlankEnd (cs : List Char) : words (dropBlankEnd cs) = words cs := by
  obtain ⟨tail, whole, blank⟩ := dropBlankEnd_append cs
  conv_rhs => rw [whole]
  exact (words_append_blank blank _).symm

theorem dropBlankEnd_cons_of_solid {c : Char} (solid : isBlank c = false) (cs : List Char) :
    dropBlankEnd (c :: cs) = c :: dropBlankEnd cs := by
  have kept : dropBlank (cs.reverse ++ [c]) = dropBlank cs.reverse ++ [c] := by
    rw [dropBlank, List.dropWhile_append]
    split
    · rename_i empty
      have none : dropBlank cs.reverse = [] := List.isEmpty_iff.mp empty
      rw [none]
      simp [solid]
    · rfl
  rw [dropBlankEnd, List.reverse_cons, kept, List.reverse_append]
  rfl

/-- Words written each after a space are read back as themselves. -/
theorem words_spaced (rs : List (List Char)) (h : ∀ r ∈ rs, r ≠ [] ∧ ∀ c ∈ r, isBlank c = false) :
    words (rs.flatMap (' ' :: ·)) = rs := by
  induction rs with
  | nil => exact words_of_dropBlank_nil rfl
  | cons r rs ih =>
    obtain ⟨nonempty, solid⟩ := h r List.mem_cons_self
    obtain ⟨c, cs, rfl⟩ := List.exists_cons_of_ne_nil nonempty
    have front : dropBlank (' ' :: (c :: cs ++ rs.flatMap (' ' :: ·))) =
        c :: (cs ++ rs.flatMap (' ' :: ·)) := by
      rw [dropBlank_cons_of_blank (by decide), List.cons_append,
        dropBlank_cons_of_not_blank (solid c (by simp))]
    have keep : ∀ d ∈ c :: cs, (!isBlank d) = true := by simpa using solid
    rw [List.flatMap_cons, List.cons_append, words_of_dropBlank_cons front, ← List.cons_append,
      List.takeWhile_append_of_pos keep, List.dropWhile_append_of_pos keep, takeWhile_spaced,
      dropWhile_spaced, List.append_nil, ih fun m member => h m (List.mem_cons_of_mem _ member)]

/-- The last character of texts each written after a space is the last character of the last
text, when none is empty. -/
theorem getLast?_spaced {rs : List (List Char)} (nonempty : ∀ r ∈ rs, r ≠ []) {c : Char}
    (last : c ∈ (rs.flatMap (' ' :: ·)).getLast?) : ∃ r ∈ rs, c ∈ r.getLast? := by
  induction rs with
  | nil => simp at last
  | cons r rs ih =>
    rw [List.flatMap_cons] at last
    by_cases later : rs.flatMap (' ' :: ·) = []
    · have whole : (' ' :: r).getLast? = r.getLast? := by
        obtain ⟨d, ds, split_at⟩ := List.exists_cons_of_ne_nil (nonempty r List.mem_cons_self)
        rw [split_at, List.getLast?_cons_cons]
      rw [later, List.append_nil, whole] at last
      exact ⟨r, List.mem_cons_self, last⟩
    · rw [List.getLast?_append_of_ne_nil _ later] at last
      obtain ⟨q, member, lastOf⟩ := ih (fun q member => nonempty q (List.mem_cons_of_mem r member)) last
      exact ⟨q, List.mem_cons_of_mem r member, lastOf⟩

/-- The last character of texts joined with a separator is the last character of the last
text, when none is empty. -/
theorem getLast?_intercalate {sep : List Char} {fs : List (List Char)}
    (nonempty : ∀ f ∈ fs, f ≠ []) {c : Char}
    (last : c ∈ (List.intercalate sep fs).getLast?) : ∃ f ∈ fs, c ∈ f.getLast? := by
  induction fs with
  | nil => simp at last
  | cons f fs ih =>
    cases fs with
    | nil => exact ⟨f, List.mem_cons_self, by simpa using last⟩
    | cons g gs =>
      have later : List.intercalate sep (g :: gs) ≠ [] := by
        have solid := nonempty g (by simp)
        cases gs with
        | nil => simpa using solid
        | cons h hs => simp [List.intercalate_cons_cons, solid]
      rw [List.intercalate_cons_cons, List.getLast?_append_of_ne_nil _ later] at last
      obtain ⟨q, member, lastOf⟩ := ih (fun q member => nonempty q (List.mem_cons_of_mem f member)) last
      exact ⟨q, List.mem_cons_of_mem f member, lastOf⟩

/-- What is in texts joined with a separator is in the separator or in one of the texts. -/
theorem mem_intercalate {α : Type} {a : α} {sep : List α} {ls : List (List α)}
    (h : a ∈ sep.intercalate ls) : a ∈ sep ∨ ∃ l ∈ ls, a ∈ l := by
  induction ls with
  | nil => simp at h
  | cons l ls ih =>
    cases ls with
    | nil => exact .inr ⟨l, List.mem_cons_self, by simpa using h⟩
    | cons m ms =>
      rw [List.intercalate_cons_cons, List.mem_append, List.mem_append] at h
      rcases h with (first | separator) | later
      · exact .inr ⟨l, List.mem_cons_self, first⟩
      · exact .inl separator
      · rcases ih later with separator | ⟨k, member, inside⟩
        · exact .inl separator
        · exact .inr ⟨k, List.mem_cons_of_mem l member, inside⟩

/-- A space before each of several texts, with commas between them. -/
theorem cons_space_intercalate (fs : List (List Char)) (hne : fs ≠ []) :
    ' ' :: List.intercalate [',', ' '] fs = List.intercalate [','] (fs.map (' ' :: ·)) := by
  induction fs with
  | nil => contradiction
  | cons f fs ih =>
    cases fs with
    | nil => simp
    | cons g gs =>
      rw [List.intercalate_cons_cons, List.map_cons, List.map_cons, List.intercalate_cons_cons,
        ← List.map_cons, ← ih (List.cons_ne_nil g gs)]
      simp

/-- A piece of a split holds characters of the text, and never the separator. -/
theorem mem_of_mem_splitOn {a c : Char} {xs piece : List Char} (h : piece ∈ xs.splitOn a)
    (inside : c ∈ piece) : c ∈ xs ∧ c ≠ a := by
  induction xs generalizing piece with
  | nil => simp_all
  | cons x xs ih =>
    rw [List.splitOn_cons_eq_if_modifyHead] at h
    split at h
    · rcases List.mem_cons.mp h with rfl | later
      · simp at inside
      · exact ⟨List.mem_cons_of_mem x (ih later inside).1, (ih later inside).2⟩
    · rename_i different
      obtain ⟨first, others, split_eq⟩ := List.exists_cons_of_ne_nil (List.splitOn_ne_nil a xs)
      rw [split_eq, List.modifyHead_cons] at h
      rcases List.mem_cons.mp h with rfl | later
      · rcases List.mem_cons.mp inside with rfl | rest
        · exact ⟨List.mem_cons_self, fun same => by simp [same] at different⟩
        · have found := ih (by simp [split_eq]) rest
          exact ⟨List.mem_cons_of_mem _ found.1, found.2⟩
      · have found := ih (by simp [split_eq, later]) inside
        exact ⟨List.mem_cons_of_mem _ found.1, found.2⟩

end Localize.Text
