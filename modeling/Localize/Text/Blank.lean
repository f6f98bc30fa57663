/-! # Blank characters

Catalog lines, template tags and configuration values are trimmed and split on the Unicode
`White_Space` characters, not on ASCII space alone. This module holds that class as a table and
the trimming and splitting operations built on it.
-/

namespace Localize.Text

/-- A character is blank when it has the Unicode `White_Space` property: the ASCII controls
tab to carriage return, space, next line, no-break space, ogham space mark, the spaces from en
quad to hair space, the line and paragraph separators, narrow no-break space, medium mathematical
space and ideographic space. -/
def isBlank (c : Char) : Bool :=
  let n := c.val
  (0x09 ≤ n && n ≤ 0x0D) || n == 0x20 || n == 0x85 || n == 0xA0 || n == 0x1680 ||
    (0x2000 ≤ n && n ≤ 0x200A) || n == 0x2028 || n == 0x2029 || n == 0x202F ||
    n == 0x205F || n == 0x3000

/-- The text without its leading blanks. -/
def dropBlank (cs : List Char) : List Char := cs.dropWhile isBlank

/-- The text without its trailing blanks. -/
def dropBlankEnd (cs : List Char) : List Char := (dropBlank cs.reverse).reverse

/-- The text without leading and trailing blanks. -/
def trimBlank (cs : List Char) : List Char := dropBlankEnd (dropBlank cs)

theorem length_dropBlank_le (cs : List Char) : (dropBlank cs).length ≤ cs.length :=
  (List.dropWhile_suffix isBlank).length_le

/-- The first character left after dropping leading blanks is not blank. -/
theorem isBlank_of_dropBlank_eq_cons {cs rest : List Char} {c : Char}
    (h : dropBlank cs = c :: rest) : isBlank c = false := by
  have hne : cs.dropWhile isBlank ≠ [] := by simp only [dropBlank] at h; simp [h]
  have := List.head_dropWhile_not isBlank hne
  simp only [dropBlank] at h
  simpa [h] using this

/-- The maximal runs of non-blank characters, in order. -/
def words (cs : List Char) : List (List Char) :=
  match h : dropBlank cs with
  | [] => []
  | c :: rest =>
    (c :: rest).takeWhile (fun d => !isBlank d) ::
      words ((c :: rest).dropWhile (fun d => !isBlank d))
termination_by cs.length
decreasing_by
  have hc := isBlank_of_dropBlank_eq_cons h
  have hle := length_dropBlank_le cs
  rw [h] at hle
  simp only [List.dropWhile_cons, hc, Bool.not_false, ↓reduceIte, List.length_cons] at hle ⊢
  have : (rest.dropWhile (fun d => !isBlank d)).length ≤ rest.length :=
    (List.dropWhile_suffix _).length_le
  omega

end Localize.Text

namespace String

/-- The string without leading and trailing blanks. -/
def trimBlank (s : String) : String := String.ofList (Localize.Text.trimBlank s.toList)

/-- The string without its leading blanks. -/
def dropBlank (s : String) : String := String.ofList (Localize.Text.dropBlank s.toList)

/-- The maximal runs of non-blank characters of the string, in order. -/
def blankWords (s : String) : List String := (Localize.Text.words s.toList).map String.ofList

end String
