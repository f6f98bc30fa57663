import Mathlib.Data.List.Chain
import Localize.Po.Printer
import Localize.Proofs.Po.Fits

/-! # Reference lines

The printer fills `#:` lines greedily (`fillReference`): a reference joins the line being filled
unless that would take the line past `referenceWidth` bytes, and then it starts a new line. Every
line written is the reference line of a group of references (`referenceLine`), and the groups
hold the references in order. A group of more than one reference fits the width, and each group
after the first starts with a reference that did not fit after the group before (`Overflows`).
The first reference opens a line (`wrapping_opens`), one that does not fit starts the next line
(`Wrapping.breaks`), and one that fits joins the line being filled (`Wrapping.joins`), so filling
keeps all of this one reference at a time (`Wrapping.fill`) and for every list of references
(`wrapping_foldl`). Splitting a reference line on blanks gives its marker and
its group back (`words_referenceLine`), which with the rest is `referenceLines_wrap`.
-/

namespace Localize.Po

open Localize.Text

/-- A reference line: `#:`, then each reference after a space. -/
def referenceLine (group : List String) : String := "#:" ++ String.join (group.map (" " ++ ·))

/-- The reference lines filled so far, oldest first, with the line being filled. -/
def filledLines : List String × String → List String
  | (done, line) => (if line.isEmpty then done else line :: done).reverse

theorem referenceLine_singleton (r : String) : referenceLine [r] = "#:" ++ " " ++ r := by
  rw [referenceLine, List.map_singleton, String.join_cons, String.join_nil, String.append_empty,
    String.append_assoc]

theorem referenceLine_concat (group : List String) (r : String) :
    referenceLine (group ++ [r]) = referenceLine group ++ " " ++ r := by
  simp [referenceLine, String.join_append, String.append_assoc]

theorem toList_referenceLine (group : List String) :
    (referenceLine group).toList = '#' :: ':' :: (group.map String.toList).flatMap (' ' :: ·) := by
  simp [referenceLine, String.toList_join, List.flatMap_map]

theorem utf8ByteSize_referenceLine_concat (group : List String) (r : String) :
    (referenceLine (group ++ [r])).utf8ByteSize =
      (referenceLine group).utf8ByteSize + 1 + r.utf8ByteSize := by
  rw [referenceLine_concat, String.utf8ByteSize_append, String.utf8ByteSize_append]
  rfl

theorem isEmpty_referenceLine (group : List String) : (referenceLine group).isEmpty = false := by
  simp [referenceLine]

theorem filledLines_started {done : List String} {line : String} (filled : line.isEmpty = false) :
    filledLines (done, line) = done.reverse ++ [line] := by
  simp [filledLines, filled]

/-! ## Greedy filling -/

/-- The line of `group` is full: the first reference of `next` would take it past the width. -/
def Overflows (group next : List String) : Prop :=
  ∃ r ∈ next.head?, referenceWidth < (referenceLine group).utf8ByteSize + 1 + r.utf8ByteSize

/-- Whether a line is full depends only on the reference that would come next. -/
theorem overflows_append {group next : List String} (nonempty : next ≠ []) (r : String) :
    Overflows group (next ++ [r]) ↔ Overflows group next := by
  rw [Overflows, Overflows, List.head?_append_of_ne_nil _ nonempty]

/-- How the references taken in so far lie in `groups`: the lines filled are the groups'
reference lines, the line being filled is empty only before the first reference, and every group
holds a reference, fits the width unless it is a single reference, and is full before the next
group. -/
structure Wrapping (acc : List String × String) (groups : List (List String)) : Prop where
  lines : filledLines acc = groups.map referenceLine
  started : acc.2.isEmpty = groups.isEmpty
  nonempty : ∀ g ∈ groups, g ≠ []
  narrow : ∀ g ∈ groups, g.length = 1 ∨ (referenceLine g).utf8ByteSize ≤ referenceWidth
  full : groups.IsChain Overflows

theorem wrapping_start : Wrapping ([], "") [] where
  lines := rfl
  started := rfl
  nonempty := by simp
  narrow := by simp
  full := .nil

theorem wrapping_opens (r : String) : Wrapping ([], referenceLine [r]) [[r]] where
  lines := by simp [filledLines, isEmpty_referenceLine]
  started := isEmpty_referenceLine [r]
  nonempty := by simp
  narrow := by simp
  full := .singleton _

/-- A started line is the reference line of the last group. -/
theorem Wrapping.last {done : List String} {line : String} {groups : List (List String)}
    (w : Wrapping (done, line) groups) (filled : line.isEmpty = false) :
    ∃ firsts last, groups = firsts ++ [last] ∧ line = referenceLine last := by
  have lines := w.lines
  rw [filledLines_started filled] at lines
  rcases List.eq_nil_or_concat groups with none | ⟨firsts, last, split_at⟩
  · have started := w.started
    simp [none, filled] at started
  · rw [split_at, List.concat_eq_append, List.map_append, List.map_singleton] at lines
    exact ⟨firsts, last, by rw [split_at, List.concat_eq_append],
      List.singleton_inj.mp (List.append_inj' lines rfl).2⟩

/-- A reference that does not fit on the line being filled finishes it and opens the next. -/
theorem Wrapping.breaks {done : List String} {firsts : List (List String)} {last : List String}
    (w : Wrapping (done, referenceLine last) (firsts ++ [last])) {r : String}
    (wide : referenceWidth < (referenceLine last).utf8ByteSize + 1 + r.utf8ByteSize) :
    Wrapping (referenceLine last :: done, referenceLine [r]) (firsts ++ [last] ++ [[r]]) where
  lines := by
    rw [filledLines_started (isEmpty_referenceLine _), List.reverse_cons,
      ← filledLines_started (isEmpty_referenceLine _), w.lines]
    simp
  started := by simp [isEmpty_referenceLine]
  nonempty := List.forall_mem_append.mpr ⟨w.nonempty, by simp⟩
  narrow := List.forall_mem_append.mpr ⟨w.narrow, by simp⟩
  full := by
    refine w.full.append (.singleton _) fun x lastOf y first => ?_
    simp only [List.getLast?_concat, Option.mem_def, Option.some.injEq] at lastOf
    simp only [List.head?_cons, Option.mem_def, Option.some.injEq] at first
    subst lastOf first
    exact ⟨r, rfl, wide⟩

/-- A reference that fits joins the line being filled. -/
theorem Wrapping.joins {done : List String} {firsts : List (List String)} {last : List String}
    (w : Wrapping (done, referenceLine last) (firsts ++ [last])) {r : String}
    (fits : (referenceLine last).utf8ByteSize + 1 + r.utf8ByteSize ≤ referenceWidth) :
    Wrapping (done, referenceLine (last ++ [r])) (firsts ++ [last ++ [r]]) where
  lines := by
    have lines := w.lines
    rw [filledLines_started (isEmpty_referenceLine _), List.map_append, List.map_singleton]
      at lines ⊢
    rw [(List.append_inj' lines rfl).1]
  started := by simp [isEmpty_referenceLine]
  nonempty := by
    refine List.forall_mem_append.mpr ⟨fun g member => w.nonempty g (by simp [member]), ?_⟩
    simp
  narrow := by
    refine List.forall_mem_append.mpr ⟨fun g member => w.narrow g (by simp [member]), ?_⟩
    simp only [List.mem_singleton, forall_eq]
    exact .inr (by rw [utf8ByteSize_referenceLine_concat]; exact fits)
  full := by
    have nonempty := w.nonempty last (by simp)
    obtain ⟨before, -, into⟩ := List.isChain_append.mp w.full
    refine before.append (.singleton _) fun x lastOf y first => ?_
    simp only [List.head?_cons, Option.mem_def, Option.some.injEq] at first
    subst first
    exact (overflows_append nonempty r).mpr (into x lastOf last rfl)

/-- **One reference filled in keeps the layout**: it opens the first line, starts a new line
after one it does not fit on, or joins the line being filled within the width. -/
theorem Wrapping.fill {acc : List String × String} {groups : List (List String)}
    (w : Wrapping acc groups) (r : String) :
    ∃ grown, Wrapping (Po.fillReference acc r) grown ∧
      grown.flatten = groups.flatten ++ [r] := by
  obtain ⟨done, line⟩ := acc
  by_cases empty : line.isEmpty
  · -- nothing is filled yet
    have none : groups = [] := by simpa [empty] using w.started.symm
    have nothing : done = [] := by simpa [filledLines, empty, none] using w.lines
    subst none nothing
    have opens : Po.fillReference ([], line) r = ([], referenceLine [r]) := by
      simp [Po.fillReference, empty, referenceLine_singleton]
    exact ⟨[[r]], opens ▸ wrapping_opens r, by simp⟩
  · obtain ⟨firsts, last, rfl, rfl⟩ := w.last (by simpa using empty)
    by_cases wide : referenceWidth < (referenceLine last).utf8ByteSize + 1 + r.utf8ByteSize
    · have breaks : Po.fillReference (done, referenceLine last) r =
          (referenceLine last :: done, referenceLine [r]) := by
        simp [Po.fillReference, isEmpty_referenceLine, wide, referenceLine_singleton]
      exact ⟨firsts ++ [last] ++ [[r]], breaks ▸ w.breaks wide, by simp⟩
    · have joins : Po.fillReference (done, referenceLine last) r =
          (done, referenceLine (last ++ [r])) := by
        simp [Po.fillReference, isEmpty_referenceLine, wide, referenceLine_concat]
      exact ⟨firsts ++ [last ++ [r]], joins ▸ w.joins (by omega), by simp⟩

/-- Filling references one by one keeps the layout, from the empty start. -/
theorem wrapping_foldl (refs : List String) :
    ∃ groups, Wrapping (refs.foldl Po.fillReference ([], "")) groups ∧
      groups.flatten = refs := by
  induction refs using List.reverseRecOn with
  | nil => exact ⟨[], wrapping_start, rfl⟩
  | append_singleton refs r ih =>
    obtain ⟨groups, w, flat⟩ := ih
    obtain ⟨grown, filled, grownFlat⟩ := w.fill r
    rw [List.foldl_append, List.foldl_cons, List.foldl_nil]
    exact ⟨grown, filled, by rw [grownFlat, flat]⟩

/-- The printer's reference lines are reference lines that hold the references in order. -/
theorem referenceLines_eq (refs : List String) :
    ∃ groups : List (List String), referenceLines refs = groups.map referenceLine ∧
      groups.flatten = refs := by
  obtain ⟨groups, w, flat⟩ := wrapping_foldl refs
  exact ⟨groups, w.lines, flat⟩

/-! ## Reading a reference line on blanks -/

/-- A run of characters that are not blank, followed by a blank or by nothing, is the first
word. -/
theorem words_solid_append {w rest : List Char} (nonempty : w ≠ [])
    (solid : ∀ c ∈ w, isBlank c = false) (stop : ∀ c ∈ rest.head?, isBlank c = true) :
    words (w ++ rest) = w :: words rest := by
  obtain ⟨c, cs, rfl⟩ := List.exists_cons_of_ne_nil nonempty
  have front : dropBlank (c :: cs ++ rest) = c :: (cs ++ rest) :=
    dropBlank_cons_of_not_blank (solid c List.mem_cons_self) _
  have keep : ∀ d ∈ c :: cs, (!isBlank d) = true := by simpa using solid
  have halt : ∀ d ∈ rest.head?, (!isBlank d) = false := by simpa using stop
  obtain ⟨taken, dropped⟩ := takeWhile_append_of_stop halt (c :: cs)
  rw [words_of_dropBlank_cons front, ← List.cons_append, taken, dropped,
    List.takeWhile_eq_self_iff.mpr keep, List.dropWhile_eq_nil_iff.mpr keep, List.nil_append]

/-- Words written each after a space start with a blank. -/
theorem blank_head_spaced (rs : List (List Char)) :
    ∀ c ∈ (rs.flatMap (' ' :: ·)).head?, isBlank c = true := by
  intro c first
  cases rs with
  | nil => simp at first
  | cons r rs =>
    simp only [List.flatMap_cons, List.cons_append, List.head?_cons, Option.mem_def,
      Option.some.injEq] at first
    subst first
    decide

/-- **Split on blanks, a reference line is its marker and then its references.** -/
theorem words_referenceLine {group : List String} (fit : ∀ r ∈ group, IsWord r) :
    words (referenceLine group).toList = ['#', ':'] :: group.map String.toList := by
  have spaced : ∀ r ∈ group.map String.toList, r ≠ [] ∧ ∀ c ∈ r, isBlank c = false := by
    simpa [IsWord] using fit
  have marker : ∀ c ∈ ['#', ':'], isBlank c = false := by
    intro c member
    simp only [List.mem_cons, List.not_mem_nil, or_false] at member
    rcases member with rfl | rfl <;> decide
  rw [toList_referenceLine, show '#' :: ':' :: (group.map String.toList).flatMap (' ' :: ·) =
      ['#', ':'] ++ (group.map String.toList).flatMap (' ' :: ·) from rfl,
    words_solid_append (by simp) marker (blank_head_spaced _), words_spaced _ spaced]

/-- **Reference lines wrap greedily without losing references.** For every list of words, the
printer's `#:` lines are the reference lines of groups that hold the references in order; split
on blanks, each line is the marker `#:` and then its group; a line is at most `referenceWidth`
bytes long unless it holds a single reference; and the first reference of each line after the
first would have taken the line before past the width. -/
theorem referenceLines_wrap {refs : List String} (fit : ∀ r ∈ refs, IsWord r) :
    ∃ groups : List (List String),
      referenceLines refs = groups.map referenceLine ∧ groups.flatten = refs ∧
      (∀ g ∈ groups, g ≠ [] ∧
        words (referenceLine g).toList = ['#', ':'] :: g.map String.toList) ∧
      (∀ g ∈ groups, g.length = 1 ∨ (referenceLine g).utf8ByteSize ≤ referenceWidth) ∧
      groups.IsChain Overflows := by
  obtain ⟨groups, w, flat⟩ := wrapping_foldl refs
  have words : ∀ g ∈ groups, ∀ r ∈ g, IsWord r := fun g member r inside =>
    fit r (flat ▸ List.mem_flatten.mpr ⟨g, member, inside⟩)
  exact ⟨groups, w.lines, flat, fun g member =>
    ⟨w.nonempty g member, words_referenceLine (words g member)⟩, w.narrow, w.full⟩

/-- Three references of a source tree; the third does not fit after the first two. -/
theorem referenceLines_wrap_three :
    (∀ r ∈ ["internal/server/handlers.go:120", "internal/server/routes.go:45",
      "internal/server/middleware/auth.go:88"], IsWord r) ∧
    ∃ groups : List (List String),
      referenceLines ["internal/server/handlers.go:120", "internal/server/routes.go:45",
        "internal/server/middleware/auth.go:88"] = groups.map referenceLine ∧
      groups.flatten = ["internal/server/handlers.go:120", "internal/server/routes.go:45",
        "internal/server/middleware/auth.go:88"] ∧
      (∀ g ∈ groups, g ≠ [] ∧
        words (referenceLine g).toList = ['#', ':'] :: g.map String.toList) ∧
      (∀ g ∈ groups, g.length = 1 ∨ (referenceLine g).utf8ByteSize ≤ referenceWidth) ∧
      groups.IsChain Overflows := by
  have fit : ∀ r ∈ ["internal/server/handlers.go:120", "internal/server/routes.go:45",
      "internal/server/middleware/auth.go:88"], IsWord r := by
    intro r member
    simp only [List.mem_cons, List.not_mem_nil, or_false] at member
    rcases member with rfl | rfl | rfl <;> exact ⟨by simp, by simp [isBlank]⟩
  exact ⟨fit, referenceLines_wrap fit⟩

end Localize.Po
