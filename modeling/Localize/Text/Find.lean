/-! # Finding and replacing text

Scanners in this library look for fixed markers (`{%`, `%}`, a quote) and replace fixed
patterns. `breakOn` splits a text at the first occurrence of a marker; its main lemma says that
the two parts and the marker give back the text, so the part after a non-empty marker is
strictly shorter, which is what the scanners' termination rests on. `replaceAll` replaces
every occurrence from left to right without overlaps.
-/

namespace Localize.Text

/-- The rest of `cs` after the prefix `pre`, when `cs` starts with it. -/
def afterPrefix? : List Char → List Char → Option (List Char)
  | [], cs => some cs
  | _ :: _, [] => none
  | p :: ps, c :: cs => if p = c then afterPrefix? ps cs else none

theorem afterPrefix?_eq_some {pre cs rest : List Char} (h : afterPrefix? pre cs = some rest) :
    cs = pre ++ rest := by
  induction pre generalizing cs with
  | nil => simp only [afterPrefix?, Option.some.injEq] at h; simp [h]
  | cons p ps ih =>
    cases cs with
    | nil => simp [afterPrefix?] at h
    | cons c cs =>
      simp only [afterPrefix?] at h
      split at h
      · rename_i hpc
        subst hpc
        simp [ih h]
      · simp at h

@[simp] theorem afterPrefix?_append (pre rest : List Char) :
    afterPrefix? pre (pre ++ rest) = some rest := by
  induction pre with
  | nil => rfl
  | cons p ps ih => simp [afterPrefix?, ih]

/-- Whether `cs` starts with `pre`. -/
def startsWith (pre cs : List Char) : Bool := (afterPrefix? pre cs).isSome

/-- Splits `cs` at the first occurrence of `pat` into the text before it and the text after
it. -/
def breakOn (pat : List Char) : List Char → Option (List Char × List Char)
  | [] => (afterPrefix? pat []).map fun after => ([], after)
  | c :: cs =>
    match afterPrefix? pat (c :: cs) with
    | some after => some ([], after)
    | none => (breakOn pat cs).map fun (before, after) => (c :: before, after)

/-- The parts of a split and the marker between them give back the text. -/
theorem breakOn_eq_some {pat cs before after : List Char}
    (h : breakOn pat cs = some (before, after)) : cs = before ++ pat ++ after := by
  induction cs generalizing before with
  | nil =>
    simp only [breakOn, Option.map_eq_some_iff, Prod.mk.injEq] at h
    obtain ⟨a, ha, rfl, rfl⟩ := h
    simpa using afterPrefix?_eq_some ha
  | cons c cs ih =>
    simp only [breakOn] at h
    split at h
    · rename_i a ha
      simp only [Option.some.injEq, Prod.mk.injEq] at h
      obtain ⟨rfl, rfl⟩ := h
      simpa using afterPrefix?_eq_some ha
    · simp only [Option.map_eq_some_iff, Prod.mk.injEq, Prod.exists] at h
      obtain ⟨b, a, hb, rfl, rfl⟩ := h
      simp [ih hb]

/-- After a non-empty marker, what is left is shorter than the text. -/
theorem length_lt_of_breakOn {pat cs before after : List Char} (hpat : pat ≠ [])
    (h : breakOn pat cs = some (before, after)) : after.length < cs.length := by
  rw [breakOn_eq_some h]
  have : 0 < pat.length := List.length_pos_iff.mpr hpat
  simp only [List.length_append]
  omega

/-- Replaces every occurrence of the non-empty pattern `p :: ps` in `cs` with `rep`, left to
right and without overlaps. -/
def replaceEach (p : Char) (ps rep : List Char) : List Char → List Char
  | [] => []
  | c :: cs =>
    match h : afterPrefix? (p :: ps) (c :: cs) with
    | some after => rep ++ replaceEach p ps rep after
    | none => c :: replaceEach p ps rep cs
termination_by cs => cs.length
decreasing_by
  · have := congrArg List.length (afterPrefix?_eq_some h)
    simp only [List.length_cons, List.length_append] at this ⊢
    omega
  · simp

/-- Replaces every occurrence of `pat` in `cs` with `rep`, left to right and without overlaps.
An empty pattern leaves the text alone. -/
def replaceAll (pat rep cs : List Char) : List Char :=
  match pat with
  | [] => cs
  | p :: ps => replaceEach p ps rep cs

/-- A replacement that shortens each occurrence never lengthens the text. -/
theorem length_replaceEach_le {p : Char} {ps rep : List Char}
    (hlen : rep.length ≤ ps.length + 1) (cs : List Char) :
    (replaceEach p ps rep cs).length ≤ cs.length := by
  fun_induction replaceEach p ps rep cs with
  | case1 => simp
  | case2 c cs after h ih =>
    have := congrArg List.length (afterPrefix?_eq_some h)
    simp only [List.length_cons, List.length_append] at this ⊢
    omega
  | case3 c cs h ih =>
    simp only [List.length_cons]
    omega

/-- A replacement that strictly shortens each occurrence keeps the length only when it changes
nothing. -/
theorem replaceEach_eq_of_length {p : Char} {ps rep : List Char}
    (hlen : rep.length < ps.length + 1) (cs : List Char)
    (h : (replaceEach p ps rep cs).length = cs.length) : replaceEach p ps rep cs = cs := by
  fun_induction replaceEach p ps rep cs with
  | case1 => rfl
  | case2 c cs after hpre ih =>
    exfalso
    have hcs := congrArg List.length (afterPrefix?_eq_some hpre)
    have hafter : (replaceEach p ps rep after).length ≤ after.length :=
      length_replaceEach_le (Nat.le_of_lt hlen) after
    simp only [List.length_cons, List.length_append] at hcs h ⊢
    omega
  | case3 c cs hpre ih =>
    simp only [List.length_cons, Nat.add_right_cancel_iff] at h
    rw [ih h]

theorem length_replaceAll_le {pat rep : List Char} (hlen : rep.length ≤ pat.length)
    (cs : List Char) : (replaceAll pat rep cs).length ≤ cs.length := by
  cases pat with
  | nil => exact Nat.le_refl _
  | cons p ps => exact length_replaceEach_le (by simpa using hlen) cs

theorem replaceAll_eq_of_length {pat rep : List Char} (hlen : rep.length < pat.length)
    (cs : List Char) (h : (replaceAll pat rep cs).length = cs.length) :
    replaceAll pat rep cs = cs := by
  cases pat with
  | nil => rfl
  | cons p ps => exact replaceEach_eq_of_length (by simpa using hlen) cs h

end Localize.Text

/-! ## Lines of text

Two ways of cutting a text into lines. `pieces` keeps each line's newline, so the pieces join
back to the text (`flatten_pieces`). `lines` drops the newline and a carriage return before it;
a final newline does not start another line.
-/

namespace Localize.Text

/-- Cuts a text after each newline; the newline stays with its line and a last line without
newline is kept. The empty text has no pieces. -/
def pieces (cs : List Char) : List (List Char) :=
  match h : cs.dropWhile (· != '\n') with
  | [] => if cs.isEmpty then [] else [cs]
  | nl :: after => (cs.takeWhile (· != '\n') ++ [nl]) :: pieces after
termination_by cs.length
decreasing_by
  have hs : (cs.dropWhile (· != '\n')).length ≤ cs.length := (List.dropWhile_suffix _).length_le
  rw [h] at hs
  simp only [List.length_cons] at hs
  omega

/-- The lines of a text without their line ends: a newline, or a carriage return and a
newline. -/
def lines (cs : List Char) : List (List Char) :=
  (pieces cs).map fun piece =>
    match piece.getLast? with
    | some '\n' =>
      let line := piece.dropLast
      if line.getLast? == some '\r' then line.dropLast else line
    | _ => piece

/-- The text before the first `sep` and the text after it. -/
def splitOnce (sep : Char) (cs : List Char) : Option (List Char × List Char) :=
  match cs.dropWhile (· != sep) with
  | [] => none
  | _ :: after => some (cs.takeWhile (· != sep), after)

end Localize.Text
