import Localize.Template.Placeholder
import Mathlib.Logic.Relation

/-! # Removing placeholder padding reaches the unique normal form

Placeholder padding is removed by two rewrite rules, `{{ ` to `{{` and ` }}` to `}}`, applied
anywhere in a text (`PaddingStep`): each step deletes one space that follows `{{` or precedes
`}}`. A text without `{{ ` and ` }}` (`NoPadding`) is one where no step applies.

The two rules overlap only on `{{ }}`, where both give `{{}}`, and steps at different places
commute, so two steps from one text meet again after at most one step each
(`PaddingStep.diamond`); with `Relation.church_rosser`, any two texts reached from one text
reach a common one, and a text reaches at most one text without padding
(`eq_of_reflTransGen_noPadding`).

Normalizing repeats rounds of the two replacements until a round changes nothing. Each
replacement is a run of steps (`reflTransGen_replaceEach`), and a round that changes nothing
finds no padding (`noPadding_of_collapseRound`), so normalizing reaches a text without padding
(`collapsePlaceholders_normal`). `normalizePlaceholders_normal_form` puts this together: the
result is the unique normal form of the text, normalizing is idempotent, and texts that reach
one another normalize alike.
-/

namespace Localize.Template

open Localize.Text Relation

/-- One step of removing placeholder padding: a space right after `{{` or right before `}}` is
deleted, anywhere in the text. -/
inductive PaddingStep : List Char → List Char → Prop
  /-- `{{ ` becomes `{{`. -/
  | opening (rest : List Char) : PaddingStep ('{' :: '{' :: ' ' :: rest) ('{' :: '{' :: rest)
  /-- ` }}` becomes `}}`. -/
  | closing (rest : List Char) : PaddingStep (' ' :: '}' :: '}' :: rest) ('}' :: '}' :: rest)
  /-- A step after the first character. -/
  | cons (c : Char) {cs cs' : List Char} : PaddingStep cs cs' → PaddingStep (c :: cs) (c :: cs')

/-- The text holds neither `{{ ` nor ` }}`. -/
def NoPadding (cs : List Char) : Prop :=
  ¬ ['{', '{', ' '] <:+: cs ∧ ¬ [' ', '}', '}'] <:+: cs

namespace PaddingStep

theorem append (pre : List Char) {cs cs' : List Char} (step : PaddingStep cs cs') :
    PaddingStep (pre ++ cs) (pre ++ cs') := by
  induction pre with
  | nil => exact step
  | cons c pre ih => exact .cons c ih

theorem reflTransGen_append (pre : List Char) {cs cs' : List Char}
    (steps : ReflTransGen PaddingStep cs cs') : ReflTransGen PaddingStep (pre ++ cs) (pre ++ cs') :=
  ReflTransGen.lift (pre ++ ·) (fun _ _ step => step.append pre) _ _ steps

/-- A step applies only where there is padding. -/
theorem padded {cs cs' : List Char} (step : PaddingStep cs cs') :
    ['{', '{', ' '] <:+: cs ∨ [' ', '}', '}'] <:+: cs := by
  induction step with
  | opening rest => exact .inl (List.infix_append [] _ rest)
  | closing rest => exact .inr (List.infix_append [] _ rest)
  | cons c _ ih =>
    rcases ih with found | found
    · exact .inl (found.trans (List.suffix_cons c _).isInfix)
    · exact .inr (found.trans (List.suffix_cons c _).isInfix)

end PaddingStep

/-- A step from a text opening with `{{ ` meets the removal of that space again: inside the
text, the two steps commute; on `{{ }}`, both rules give `{{}}`. -/
theorem opening_diamond (rest : List Char) {c : List Char}
    (step : PaddingStep ('{' :: '{' :: ' ' :: rest) c) :
    ∃ d, ReflGen PaddingStep ('{' :: '{' :: rest) d ∧ ReflGen PaddingStep c d := by
  cases step with
  | opening => exact ⟨_, .refl, .refl⟩
  | cons _ step =>
    cases step with
    | cons _ step =>
      cases step with
      | closing rest' => exact ⟨_, .refl, .refl⟩
      | cons _ step => exact ⟨_, .single (.cons _ (.cons _ step)), .single (.opening _)⟩

/-- A step from a text opening with ` }}` meets the removal of that space again. -/
theorem closing_diamond (rest : List Char) {c : List Char}
    (step : PaddingStep (' ' :: '}' :: '}' :: rest) c) :
    ∃ d, ReflGen PaddingStep ('}' :: '}' :: rest) d ∧ ReflGen PaddingStep c d := by
  cases step with
  | closing => exact ⟨_, .refl, .refl⟩
  | cons _ step =>
    cases step with
    | cons _ step =>
      cases step with
      | cons _ step => exact ⟨_, .single (.cons _ (.cons _ step)), .single (.closing _)⟩

theorem reflGen_cons (c : Char) {cs cs' : List Char} (steps : ReflGen PaddingStep cs cs') :
    ReflGen PaddingStep (c :: cs) (c :: cs') := by
  cases steps with
  | refl => exact .refl
  | single step => exact .single (.cons c step)

/-- Two steps from one text meet again after at most one step each. -/
theorem PaddingStep.diamond {a b c : List Char} (left : PaddingStep a b) (right : PaddingStep a c) :
    ∃ d, ReflGen PaddingStep b d ∧ ReflGen PaddingStep c d := by
  induction left generalizing c with
  | opening rest => exact opening_diamond rest right
  | closing rest => exact closing_diamond rest right
  | cons x left ih =>
    cases right with
    | opening rest =>
      obtain ⟨d, fromB, fromC⟩ := opening_diamond rest (.cons _ left)
      exact ⟨d, fromC, fromB⟩
    | closing rest =>
      obtain ⟨d, fromB, fromC⟩ := closing_diamond rest (.cons _ left)
      exact ⟨d, fromC, fromB⟩
    | cons _ right =>
      obtain ⟨d, fromB, fromC⟩ := ih right
      exact ⟨x :: d, reflGen_cons x fromB, reflGen_cons x fromC⟩

/-- A step deletes one space that immediately follows `{{` or immediately precedes `}}`. -/
theorem paddingStep_iff {cs cs' : List Char} : PaddingStep cs cs' ↔
    ∃ u v, cs = u ++ ' ' :: v ∧ cs' = u ++ v ∧ (['{', '{'] <:+ u ∨ ['}', '}'] <+: v) := by
  constructor
  · intro step
    induction step with
    | opening rest => exact ⟨['{', '{'], rest, rfl, rfl, .inl (List.suffix_refl _)⟩
    | closing rest => exact ⟨[], '}' :: '}' :: rest, rfl, rfl, .inr (List.prefix_append _ rest)⟩
    | cons c _ ih =>
      obtain ⟨u, v, rfl, rfl, beside⟩ := ih
      exact ⟨c :: u, v, rfl, rfl, beside.imp_left (·.trans (List.suffix_cons c u))⟩
  · rintro ⟨u, v, rfl, rfl, beside⟩
    induction u with
    | nil =>
      obtain ⟨rest, rfl⟩ : ∃ rest, v = '}' :: '}' :: rest := by
        rcases beside with opening | ⟨rest, rfl⟩
        · simp at opening
        · exact ⟨rest, rfl⟩
      exact .closing rest
    | cons c u ih =>
      rcases beside with opening | closing
      · rcases List.suffix_cons_iff.mp opening with whole | inside
        · -- the space follows the whole of `c :: u`, which is `{{`
          obtain ⟨rfl, rfl⟩ : c = '{' ∧ u = ['{'] := by simpa [eq_comm] using whole
          exact .opening v
        · exact .cons c (ih (.inl inside))
      · exact .cons c (ih (.inr closing))

theorem NoPadding.irreducible {cs : List Char} (plain : NoPadding cs) (cs' : List Char) :
    ¬ PaddingStep cs cs' :=
  fun step => step.padded.elim plain.1 plain.2

/-- A text reaches at most one text without padding. -/
theorem eq_of_reflTransGen_noPadding {t u v : List Char} (toU : ReflTransGen PaddingStep t u)
    (plainU : NoPadding u) (toV : ReflTransGen PaddingStep t v) (plainV : NoPadding v) :
    u = v := by
  obtain ⟨w, uw, vw⟩ := church_rosser (fun _ _ _ left right =>
    let ⟨d, fromB, fromC⟩ := left.diamond right
    ⟨d, fromB, reflGen_le_reflTransGen _ _ fromC⟩) toU toV
  -- a text without padding takes no step, so it reaches only itself
  have stays : ∀ {x y : List Char}, NoPadding x → ReflTransGen PaddingStep x y → x = y :=
    fun plain steps => steps.cases_head.resolve_right fun ⟨z, step, _⟩ => plain.irreducible z step
  rw [stays plainU uw, stays plainV vw]

/-! ## Normalizing -/

/-- Replacing every occurrence of a pattern, left to right, is a run of steps when replacing one
occurrence at the front is a step. -/
theorem reflTransGen_replaceEach {p : Char} {ps rep : List Char}
    (rule : ∀ rest, PaddingStep (p :: ps ++ rest) (rep ++ rest)) (cs : List Char) :
    ReflTransGen PaddingStep cs (replaceEach p ps rep cs) := by
  fun_induction replaceEach p ps rep cs with
  | case1 => exact .refl
  | case2 c cs after found ih =>
    rw [afterPrefix?_eq_some found]
    exact .head (rule after) (PaddingStep.reflTransGen_append rep ih)
  | case3 c cs missing ih => exact PaddingStep.reflTransGen_append [c] ih

theorem reflTransGen_collapseRound (cs : List Char) :
    ReflTransGen PaddingStep cs (collapseRound cs) :=
  (@reflTransGen_replaceEach '{' ['{', ' '] ['{', '{'] PaddingStep.opening cs).trans
    (@reflTransGen_replaceEach ' ' ['}', '}'] ['}', '}'] PaddingStep.closing _)

/-- Replacing an occurring pattern by something shorter shortens the text. -/
theorem length_replaceEach_lt {p : Char} {ps rep : List Char} (hlen : rep.length < ps.length + 1)
    {cs : List Char} (found : (p :: ps) <:+: cs) :
    (replaceEach p ps rep cs).length < cs.length := by
  fun_induction replaceEach p ps rep cs with
  | case1 => simp at found
  | case2 c cs after matched ih =>
    have whole := congrArg List.length (afterPrefix?_eq_some matched)
    have rest := length_replaceEach_le (p := p) (Nat.le_of_lt hlen) after
    simp only [List.length_cons, List.length_append] at whole ⊢
    omega
  | case3 c cs missing ih =>
    -- the occurrence does not start here, so it lies in the rest
    have later : (p :: ps) <:+: cs := by
      rcases List.infix_cons_iff.mp found with ⟨rest, front⟩ | inside
      · rw [← front, afterPrefix?_append] at missing
        cases missing
      · exact inside
    simp only [List.length_cons]
    have := ih later
    omega

/-- A round shortens a text with padding. -/
theorem length_collapseRound_lt_of_padded {cs : List Char}
    (padded : ['{', '{', ' '] <:+: cs ∨ [' ', '}', '}'] <:+: cs) :
    (collapseRound cs).length < cs.length := by
  have second := @length_replaceAll_le [' ', '}', '}'] ['}', '}'] (by decide)
    (replaceAll ['{', '{', ' '] ['{', '{'] cs)
  unfold collapseRound
  rcases padded with opening | closing
  · have first : (replaceAll ['{', '{', ' '] ['{', '{'] cs).length < cs.length :=
      length_replaceEach_lt (by decide) opening
    omega
  · by_cases same : replaceAll ['{', '{', ' '] ['{', '{'] cs = cs
    · rw [same]
      exact length_replaceEach_lt (by decide) closing
    · have first : (replaceAll ['{', '{', ' '] ['{', '{'] cs).length < cs.length :=
        Nat.lt_of_le_of_ne (length_replaceAll_le (by decide) cs)
          fun equal => same (replaceAll_eq_of_length (by decide) cs equal)
      omega

/-- A round that changes nothing leaves no padding. -/
theorem noPadding_of_collapseRound {cs : List Char} (fixed : collapseRound cs = cs) :
    NoPadding cs := by
  refine ⟨fun found => ?_, fun found => ?_⟩
  · have shorter := length_collapseRound_lt_of_padded (.inl found)
    rw [fixed] at shorter
    exact Nat.lt_irrefl _ shorter
  · have shorter := length_collapseRound_lt_of_padded (.inr found)
    rw [fixed] at shorter
    exact Nat.lt_irrefl _ shorter

/-- Normalizing reaches a text without padding. -/
theorem collapsePlaceholders_normal (cs : List Char) :
    ReflTransGen PaddingStep cs (collapsePlaceholders cs) ∧
      NoPadding (collapsePlaceholders cs) := by
  fun_induction collapsePlaceholders cs with
  | case1 cs _ fixed => exact ⟨.refl, noPadding_of_collapseRound fixed⟩
  | case2 cs _ changed ih => exact ⟨(reflTransGen_collapseRound cs).trans ih.1, ih.2⟩

/-- Normalizing placeholders computes the normal form of a text under the rules `{{ ` to `{{`
and ` }}` to `}}`: a round that changes the text shortens it, so the rounds end; the result is
reached from the text by deleting such spaces one at a time and holds neither `{{ ` nor ` }}`;
it is the only text without padding that the text reaches; so normalizing is idempotent, and
texts that reach one another normalize alike. -/
theorem normalizePlaceholders_normal_form :
    (∀ cs, collapseRound cs ≠ cs → (collapseRound cs).length < cs.length) ∧
      ∀ t : String,
        ReflTransGen PaddingStep t.toList (normalizePlaceholders t).toList ∧
        NoPadding (normalizePlaceholders t).toList ∧
        (∀ u, ReflTransGen PaddingStep t.toList u → NoPadding u →
          u = (normalizePlaceholders t).toList) ∧
        normalizePlaceholders (normalizePlaceholders t) = normalizePlaceholders t ∧
        ∀ t' : String, ReflTransGen PaddingStep t.toList t'.toList →
          normalizePlaceholders t' = normalizePlaceholders t := by
  refine ⟨fun cs changed => length_collapseRound_lt changed, fun t => ?_⟩
  have toList_eq : ∀ s, (normalizePlaceholders s).toList = collapsePlaceholders s.toList :=
    fun s => String.toList_ofList
  obtain ⟨reaches, plain⟩ := collapsePlaceholders_normal t.toList
  have unique : ∀ u, ReflTransGen PaddingStep t.toList u → NoPadding u →
      u = collapsePlaceholders t.toList :=
    fun u toU plainU => eq_of_reflTransGen_noPadding toU plainU reaches plain
  -- a text reached from `t` normalizes to a text without padding that `t` reaches
  have same : ∀ t' : String, ReflTransGen PaddingStep t.toList t'.toList →
      normalizePlaceholders t' = normalizePlaceholders t := by
    intro t' steps
    obtain ⟨reaches', plain'⟩ := collapsePlaceholders_normal t'.toList
    apply String.toList_injective
    rw [toList_eq, toList_eq]
    exact unique _ (steps.trans reaches') plain'
  rw [toList_eq]
  exact ⟨reaches, plain, unique, same _ (by rw [toList_eq]; exact reaches), same⟩

/-- `{{ { x` normalizes to `{{{x`: deleting the first space makes a second `{{ `. -/
example : normalizePlaceholders "\x7b\x7b \x7b x" = "\x7b\x7b\x7bx" := by
  have steps : ReflTransGen PaddingStep "\x7b\x7b \x7b x".toList "\x7b\x7b\x7bx".toList :=
    (ReflTransGen.single (.opening _)).tail (.cons '{' (.opening _))
  have plain : NoPadding "\x7b\x7b\x7bx".toList := by
    unfold NoPadding
    decide
  obtain ⟨reaches, normal⟩ := collapsePlaceholders_normal "\x7b\x7b \x7b x".toList
  apply String.toList_injective
  rw [normalizePlaceholders, String.toList_ofList]
  exact (eq_of_reflTransGen_noPadding steps plain reaches normal).symm

end Localize.Template
