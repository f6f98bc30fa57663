import Localize.Text.Find

/-! # Placeholder spacing

Block tags may write a placeholder with inner padding, `{{ name }}`; catalogs keep it as
`{{name}}`. A round of normalization replaces every `{{ ` to `{{` and then every ` }}` to `}}`;
rounds repeat until one changes nothing. Each changing round strictly shortens the text, which is
the measure that ends the repetition.
-/

namespace Localize.Template

open Localize.Text

/-- One round: every `{{ ` becomes `{{`, then every ` }}` becomes `}}`. -/
def collapseRound (cs : List Char) : List Char :=
  replaceAll [' ', '}', '}'] ['}', '}'] (replaceAll ['{', '{', ' '] ['{', '{'] cs)

theorem length_collapseRound_le (cs : List Char) : (collapseRound cs).length ≤ cs.length :=
  Nat.le_trans (length_replaceAll_le (by decide) _) (length_replaceAll_le (by decide) cs)

/-- A round that changes the text shortens it. -/
theorem length_collapseRound_lt {cs : List Char} (h : collapseRound cs ≠ cs) :
    (collapseRound cs).length < cs.length := by
  have first : (replaceAll ['{', '{', ' '] ['{', '{'] cs).length ≤ cs.length :=
    length_replaceAll_le (by decide) cs
  have second : (collapseRound cs).length ≤ (replaceAll ['{', '{', ' '] ['{', '{'] cs).length :=
    length_replaceAll_le (by decide) _
  refine Nat.lt_of_le_of_ne (length_collapseRound_le cs) fun heq => h ?_
  unfold collapseRound at heq second ⊢
  have h1 : replaceAll ['{', '{', ' '] ['{', '{'] cs = cs :=
    replaceAll_eq_of_length (by decide) cs (by omega)
  rw [h1] at heq ⊢
  exact replaceAll_eq_of_length (by decide) cs heq

/-- Rounds of `collapseRound` until one changes nothing. -/
def collapsePlaceholders (cs : List Char) : List Char :=
  let next := collapseRound cs
  if h : next = cs then cs else collapsePlaceholders next
termination_by cs.length
decreasing_by exact length_collapseRound_lt h

/-- Removes the inner padding of every placeholder. -/
def normalizePlaceholders (text : String) : String :=
  String.ofList (collapsePlaceholders text.toList)

end Localize.Template
