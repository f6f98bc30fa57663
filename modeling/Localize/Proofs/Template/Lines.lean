import Localize.Proofs.Template.Grammar
import Mathlib.Data.List.Forall2
import Mathlib.Data.List.Sort

/-! # Where the scanner's items come from

A scan yields its messages, then the error that stopped it, if any (`scanItems`). Every item
comes from a message tag: a `{%` after which, past blanks, a message keyword stands
(`TagOpensAt`). `scan_items_at_tags` says that the items stand at increasing positions of such
tags, one item per tag, and that each reports the line of its tag's `{%`: one more than the
number of newlines before it. So a scan yields at most one item per `{%` of the text, and the
lines it reports never decrease.

The proof follows the scan along the text. Each tag reader leaves a suffix of what it read and
reports only its tag's line (`scanInline_reads`, `scanBlock_reads`); the `{%` that the scan of a
suffix finds stands where the suffix says (`tag_position`), so the scan of a suffix of the text
finds its tags at or after the suffix's start (`scanFrom_items`).
-/

namespace Localize.Template

open Localize.Text

/-- A message tag opens at position `o` of `cs`: `{%` stands there and, past blanks, a message
keyword follows. -/
def TagOpensAt (cs : List Char) (o : Nat) : Prop :=
  ∃ after, afterPrefix? openMark (cs.drop o) = some after ∧
    (keywordIn keywords (dropBlank after)).isSome

/-- The positions of `{%` in `cs`, in order. -/
def openings (cs : List Char) : List Nat :=
  (List.range cs.length).filter fun o => startsWith openMark (cs.drop o)

/-- The items of a scan in the order they are yielded: each message, then the error that
stopped the scan, if any. Nothing follows the error. -/
def scanItems (result : List TagMessage × Option ScanError) : List (Except ScanError TagMessage) :=
  result.1.map .ok ++ (result.2.map .error).toList

/-- An error is the last item of a scan. -/
theorem scanItems_error_last (result : List TagMessage × Option ScanError) {i : Nat}
    {e : ScanError} (at_i : (scanItems result)[i]? = some (.error e)) :
    (scanItems result).length = i + 1 := by
  obtain ⟨messages, stop⟩ := result
  simp only [scanItems] at at_i ⊢
  rw [List.getElem?_append] at at_i
  split at at_i
  · simp at at_i
  · rename_i beyond
    have within := (List.getElem?_eq_some_iff.mp at_i).1
    cases stop <;> simp at within beyond ⊢
    omega

/-- The line an item reports. -/
def itemLine : Except ScanError TagMessage → Nat
  | .ok m => m.line
  | .error e => e.line

/-- The item comes from the message tag at position `o` of `T` and reports the line of its
`{%`. -/
def ItemAt (T : List Char) (o : Nat) (item : Except ScanError TagMessage) : Prop :=
  TagOpensAt T o ∧ itemLine item = (T.take o).count '\n' + 1

/-! ## Reading one tag -/

/-- Reading a tag at `line` from `cs` fails with an error of that line, or gives what `found`
asks of its message and leaves a suffix of `cs`. -/
def ReadsAt {α : Type} (found : α → Prop) (line : Nat) (cs : List Char) :
    Except ScanError (α × List Char) → Prop
  | .error e => e.line = line
  | .ok (m, rest) => found m ∧ rest <:+ cs

theorem ReadsAt.mono {α : Type} {found : α → Prop} {line : Nat} {cs cs' : List Char}
    (longer : cs <:+ cs') : ∀ {r}, ReadsAt found line cs r → ReadsAt found line cs' r
  | .error _, reads => reads
  | .ok _, reads => ⟨reads.1, reads.2.trans longer⟩

theorem suffix_of_breakOn {pat cs before after : List Char}
    (split : breakOn pat cs = some (before, after)) : after <:+ cs :=
  ⟨before ++ pat, (breakOn_eq_some split).symm⟩

theorem dropBlank_suffix (cs : List Char) : dropBlank cs <:+ cs :=
  List.dropWhile_suffix isBlank

theorem keywordIn_suffix {table : List (List Char × Opener)} {cs rest : List Char}
    {opener : Opener} (found : keywordIn table cs = some (opener, rest)) : rest <:+ cs := by
  induction table with
  | nil => simp [keywordIn] at found
  | cons entry table ih =>
    obtain ⟨word, o⟩ := entry
    simp only [keywordIn] at found
    split at found
    · rename_i after matched
      split at found
      · exact ih found
      · obtain ⟨-, rfl⟩ := Prod.mk.inj (Option.some.inj found)
        unfold wordAt at matched
        split at matched
        · rename_i whole
          split at matched
          · cases matched
            exact ⟨word, (afterPrefix?_eq_some whole).symm⟩
          · cases matched
        · cases matched
    · exact ih found

theorem contextClause_error_line {line : Nat} {b : Bool} {cs : List Char} {e : ScanError}
    (failed : contextClause line b cs = .error e) : e.line = line := by
  fun_induction contextClause line b cs with
  | case3 => cases failed; rfl
  | case5 _ _ _ _ _ _ ih => exact ih failed
  | case6 _ _ _ _ ih => exact ih failed
  | _ => cases failed

/-- An inline tag reports only its own line and leaves a suffix of the text. -/
theorem scanInline_reads (line : Nat) (cs : List Char) :
    ReadsAt (fun m => ∀ x ∈ m, x.line = line) line cs (scanInline line cs) := by
  unfold scanInline
  split
  · rfl
  · rename_i region after split
    have rest := suffix_of_breakOn split
    split
    · exact ⟨by simp, rest⟩
    · rfl
    · split
      · rename_i e failed
        exact contextClause_error_line failed
      · exact ⟨by simp, rest⟩

/-- The body of a block reports only its tag's line and leaves a suffix of the text. -/
theorem blockBody_reads (line : Nat) (closing : List Char) (context : String)
    (singular : Option (List Char)) (seg cs : List Char) :
    ReadsAt (fun m => m.line = line) line cs (blockBody line closing context singular seg cs) := by
  fun_induction blockBody line closing context singular seg cs with
  | case1 | case2 | case4 => rfl
  | case3 _ _ cs before after split _ _ rest close ih =>
    -- the `plural` tag ends before the rest of the body
    have inner : rest <:+ cs := (suffix_of_breakOn close).trans
      ((dropBlank_suffix after).trans (suffix_of_breakOn split))
    exact ih.mono inner
  | case5 _ _ cs before after split _ _ _ rest close =>
    exact ⟨rfl, (suffix_of_breakOn close).trans
      ((dropBlank_suffix after).trans (suffix_of_breakOn split))⟩
  | case6 _ _ cs before after split _ _ ih => exact ih.mono (suffix_of_breakOn split)

/-- A block tag reports only its own line and leaves a suffix of the text. -/
theorem scanBlock_reads (line : Nat) (closing cs : List Char) :
    ReadsAt (fun m => m.line = line) line cs (scanBlock line closing cs) := by
  unfold scanBlock
  split
  · rfl
  · rename_i region body split
    split
    · rename_i e failed
      exact contextClause_error_line failed
    · exact (blockBody_reads line closing _ none [] body).mono (suffix_of_breakOn split)

/-! ## Scanning -/

/-- The items come from message tags of `T` at increasing positions, from `start` on. -/
def FromTags (T : List Char) (start : Nat) (items : List (Except ScanError TagMessage)) : Prop :=
  ∃ offsets : List Nat, offsets.Pairwise (· < ·) ∧ (∀ o ∈ offsets, start ≤ o) ∧
    List.Forall₂ (ItemAt T) offsets items

namespace FromTags

variable {T : List Char} {start : Nat} {items : List (Except ScanError TagMessage)}

theorem nil (T : List Char) (start : Nat) : FromTags T start [] := ⟨[], .nil, by simp, .nil⟩

theorem mono {start' : Nat} (earlier : start' ≤ start) (tags : FromTags T start items) :
    FromTags T start' items :=
  let ⟨offsets, sorted, bound, items⟩ := tags
  ⟨offsets, sorted, fun o member => Nat.le_trans earlier (bound o member), items⟩

theorem cons {o : Nat} {item : Except ScanError TagMessage} (here : ItemAt T o item)
    (tags : FromTags T (o + 1) items) : FromTags T o (item :: items) := by
  obtain ⟨offsets, sorted, bound, rest⟩ := tags
  refine ⟨o :: offsets, List.pairwise_cons.mpr ⟨fun o' member => bound o' member, sorted⟩,
    fun o' member => ?_, .cons here rest⟩
  rcases List.mem_cons.mp member with rfl | later
  · exact Nat.le_refl _
  · exact Nat.le_of_succ_le (bound o' later)

end FromTags

/-- The first `{%` that the scan of `cs`, a suffix of `T`, finds stands at position
`T.length - cs.length + skipped.length` of `T`: the text after it is the suffix of `T` two
positions later, and the newlines before it are those of `T` that are not after it. -/
theorem tag_position {T cs skipped after : List Char} (suffix : cs <:+ T)
    (found : breakOn openMark cs = some (skipped, after)) :
    T.drop (T.length - cs.length + skipped.length) = openMark ++ after ∧ after <:+ T ∧
      T.length - after.length = T.length - cs.length + skipped.length + 2 ∧
      (T.take (T.length - cs.length + skipped.length)).count '\n' =
        T.count '\n' - after.count '\n' := by
  obtain ⟨pre, rfl⟩ := suffix
  have split := breakOn_eq_some found
  subst split
  have mark : openMark.length = 2 := rfl
  have unmarked : openMark.count '\n' = 0 := rfl
  have start : (pre ++ (skipped ++ openMark ++ after)).length -
      (skipped ++ openMark ++ after).length + skipped.length = (pre ++ skipped).length := by simp
  rw [start]
  refine ⟨by simp, ⟨pre ++ skipped ++ openMark, by simp⟩, ?_, ?_⟩
  · simp only [List.length_append, mark]
    omega
  · rw [show pre ++ (skipped ++ openMark ++ after) = (pre ++ skipped) ++ (openMark ++ after) by
      simp, List.take_left]
    simp only [List.count_append, unmarked]
    omega

/-- A message tag found by the scan of a suffix of `T`, read at the line the scan gives it,
yields items at its position; the scan goes on after the tag. -/
theorem tag_item {T cs skipped after rest : List Char} {opener : Opener} (suffix : cs <:+ T)
    (found : breakOn openMark cs = some (skipped, after))
    (keyword : keywordIn keywords (dropBlank after) = some (opener, rest)) :
    (∀ item, itemLine item = T.count '\n' - after.count '\n' + 1 →
      ItemAt T (T.length - cs.length + skipped.length) item) ∧
    ∀ {rest'}, rest' <:+ rest → rest' <:+ T ∧
      T.length - cs.length + skipped.length + 1 ≤ T.length - rest'.length := by
  obtain ⟨at_o, later, gap, count⟩ := tag_position suffix found
  have opens : TagOpensAt T (T.length - cs.length + skipped.length) :=
    ⟨after, by rw [at_o, afterPrefix?_append], by rw [keyword]; rfl⟩
  refine ⟨fun item lined => ⟨opens, by rw [count]; exact lined⟩, fun inner => ?_⟩
  have fromAfter : _ <:+ after :=
    inner.trans ((keywordIn_suffix keyword).trans (dropBlank_suffix after))
  have := fromAfter.length_le
  exact ⟨fromAfter.trans later, by omega⟩

/-- The items of the scan of `cs`, a suffix of the text `T`, come from message tags of `T` at
increasing positions, none before the suffix starts. -/
theorem scanFrom_items (T cs : List Char) :
    cs <:+ T → FromTags T (T.length - cs.length) (scanItems (scanFrom (T.count '\n') cs)) := by
  fun_induction scanFrom (T.count '\n') cs with
  | case1 => exact fun _ => FromTags.nil T _
  | case2 cs skipped after found _ ih =>
    -- a `{%` without a message keyword is passed over
    intro suffix
    obtain ⟨-, later, gap, -⟩ := tag_position suffix found
    exact (ih later).mono (by omega)
  | case3 cs skipped after found line rest keyword e failed =>
    intro suffix
    have reads := scanInline_reads line rest
    rw [failed] at reads
    exact (FromTags.cons ((tag_item suffix found keyword).1 (.error e) reads)
      (FromTags.nil T _)).mono (Nat.le_add_right _ _)
  | case4 cs skipped after found line rest keyword m rest' read messages stop scanned ih =>
    intro suffix
    have reads := scanInline_reads line rest
    rw [read] at reads
    obtain ⟨here, next⟩ := tag_item suffix found keyword
    obtain ⟨later, beyond⟩ := next reads.2
    have tags := ih later
    rw [scanned] at tags
    cases m with
    | none => simpa [scanItems] using tags.mono (by omega)
    | some m =>
      simpa [scanItems] using
        (FromTags.cons (here (.ok m) (reads.1 m rfl)) (tags.mono beyond)).mono
          (Nat.le_add_right _ _)
  | case5 cs skipped after found line closing rest keyword e failed =>
    intro suffix
    have reads := scanBlock_reads line closing rest
    rw [failed] at reads
    exact (FromTags.cons ((tag_item suffix found keyword).1 (.error e) reads)
      (FromTags.nil T _)).mono (Nat.le_add_right _ _)
  | case6 cs skipped after found line closing rest keyword m rest' read messages stop scanned ih =>
    intro suffix
    have reads := scanBlock_reads line closing rest
    rw [read] at reads
    obtain ⟨here, next⟩ := tag_item suffix found keyword
    obtain ⟨later, beyond⟩ := next reads.2
    have tags := ih later
    rw [scanned] at tags
    simpa [scanItems] using
      (FromTags.cons (here (.ok m) reads.1) (tags.mono beyond)).mono (Nat.le_add_right _ _)

theorem mem_openings_of_tagOpensAt {cs : List Char} {o : Nat} (opens : TagOpensAt cs o) :
    o ∈ openings cs := by
  obtain ⟨after, mark, -⟩ := opens
  have within : o < cs.length := by
    by_contra beyond
    rw [List.drop_eq_nil_of_le (Nat.le_of_not_lt beyond)] at mark
    cases mark
  exact List.mem_filter.mpr ⟨List.mem_range.mpr within, by simp [startsWith, mark]⟩

/-- A sorted list of numbers whose members all stand in another sorted list is a part of it. -/
theorem sublist_of_increasing {l l' : List Nat} (sorted : l.Pairwise (· < ·))
    (sorted' : l'.Pairwise (· < ·)) (within : ∀ o ∈ l, o ∈ l') : l.Sublist l' :=
  List.sublist_of_subperm_of_pairwise (List.subperm_of_subset sorted.nodup within)
    (sorted.imp Nat.le_of_lt) (sorted'.imp Nat.le_of_lt)

/-- The items of a scan stand at message tags of the text, at increasing positions of its
`{%`, one item per tag, each reporting the line of its tag: one more than the number of
newlines before the tag's `{%`. So a scan yields at most one item per `{%` of the text, and
the lines it reports never decrease. -/
theorem scan_items_at_tags (text : String) :
    ∃ offsets : List Nat, offsets.Sublist (openings text.toList) ∧
      List.Forall₂ (ItemAt text.toList) offsets (scanItems (scan text)) ∧
      (scanItems (scan text)).length ≤ (openings text.toList).length ∧
      ((scanItems (scan text)).map itemLine).Pairwise (· ≤ ·) := by
  obtain ⟨offsets, sorted, -, items⟩ :=
    scanFrom_items text.toList text.toList (List.suffix_refl _)
  rw [← scan] at items
  obtain ⟨opens, -⟩ := (List.forall₂_and_left _ _).mp items
  -- distinct positions of `{%`, in order, are a part of all of them
  have part : offsets.Sublist (openings text.toList) :=
    sublist_of_increasing sorted (List.pairwise_lt_range.filter _) fun o member =>
      mem_openings_of_tagOpensAt (opens o member)
  have lines : offsets.map (fun o => (text.toList.take o).count '\n' + 1) =
      (scanItems (scan text)).map itemLine := by
    rw [← List.forall₂_eq_eq_eq, List.forall₂_map_left_iff, List.forall₂_map_right_iff]
    exact items.imp fun o item at_o => at_o.2.symm
  refine ⟨offsets, part, items, items.length_eq ▸ part.length_le, ?_⟩
  rw [← lines, List.pairwise_map]
  exact sorted.imp fun before =>
    Nat.add_le_add_right ((List.take_prefix_take_left (Nat.le_of_lt before)).count_le '\n') 1

end Localize.Template
