import Localize.Proofs.Po.Remerging

/-! # What normalizing and merging keep

Normalizing takes each later duplicate into the first entry with its identity
(`Entry.absorb`); merging builds each message from the incoming one and the existing entry it
selects, retires the existing entries nothing selected and dates the header. None of these
makes an entry that the printer cannot write in full: each keeps entries fitting
(`Entry.Fits.absorb`, `Catalog.fits_merge`), so the text of a merged catalog reads back as its
written form.

Normalizing a catalog that opens with its header keeps that header first and leaves messages
of distinct identities, each with every property that taking in a duplicate keeps
(`Catalog.normalize_header_cons`).
-/

namespace Localize.Po

open Localize.Text

/-! ## Note lists and strings -/

/-- A property of every note of two lists holds of every note of the first grown by the
second. -/
theorem forall_mem_pushMissing {P : String → Prop} {target values : List String}
    (old : ∀ x ∈ target, P x) (new : ∀ x ∈ values, P x) : ∀ x ∈ pushMissing target values, P x :=
  fun x member => (mem_pushMissing.mp member).elim (old x) (new x)

theorem length_reshape (msgstr : List String) (plural : Bool) (forms : Nat) :
    (reshape msgstr plural forms).length = if plural then max msgstr.length forms else 1 := by
  cases plural
  · simp [reshape]
  · simp only [reshape, if_true, List.length_append, List.length_replicate]
    omega

theorem two_le_maxIndex : 2 ≤ maxIndex + 1 := by decide

/-- Reshaped strings are never empty, and there are as many of them as the larger of what there
were and what was asked, so they stay numbered in full. -/
theorem reshape_fits {msgstr : List String} (nonempty : msgstr ≠ [])
    (bounded : msgstr.length ≤ maxIndex + 1) (plural : Bool) {forms : Nat}
    (within : forms ≤ maxIndex + 1) :
    reshape msgstr plural forms ≠ [] ∧ (reshape msgstr plural forms).length ≤ maxIndex + 1 := by
  have some : 0 < msgstr.length := List.length_pos_iff.mpr nonempty
  rw [← List.length_pos_iff, length_reshape]
  have one : 1 ≤ maxIndex + 1 := Nat.le_add_left 1 maxIndex
  cases plural
  · exact ⟨Nat.one_pos, one⟩
  · simp only [if_true]
    omega

theorem isFlag_fuzzy : IsFlag "fuzzy" := by
  simpa using (by simp [IsFlag, TrimmedLine, SolidEnds]; decide : ∀ f ∈ ["fuzzy"], IsFlag f)

/-! ## Taking in a duplicate -/

section Absorb

variable (t d : Entry)

/-- Taking in a duplicate grows each note list but the previous-message lines by the
duplicate's, and may give the entry a plural id and new strings; nothing else changes. -/
theorem Entry.absorb_eq : ∃ plural msgstr, t.absorb d =
    { t with
      references := pushMissing t.references d.references
      extracted := pushMissing t.extracted d.extracted
      comments := pushMissing t.comments d.comments
      flags := pushMissing t.flags d.flags
      msgidPlural := plural
      msgstr := msgstr } := by
  unfold Entry.absorb
  simp only [Entry.foldl_addFlag]
  split_ifs <;> exact ⟨_, _, rfl⟩

@[simp] theorem Entry.dedupKey_absorb : (t.absorb d).dedupKey = t.dedupKey := by
  obtain ⟨plural, msgstr, absorbed⟩ := t.absorb_eq d
  rw [absorbed]
  rfl

@[simp] theorem Entry.isHeader_absorb : (t.absorb d).isHeader = t.isHeader := by
  obtain ⟨plural, msgstr, absorbed⟩ := t.absorb_eq d
  rw [absorbed]
  rfl

@[simp] theorem Entry.obsolete_absorb : (t.absorb d).obsolete = t.obsolete := by
  obtain ⟨plural, msgstr, absorbed⟩ := t.absorb_eq d
  rw [absorbed]

@[simp] theorem Entry.previous_absorb : (t.absorb d).previous = t.previous := by
  obtain ⟨plural, msgstr, absorbed⟩ := t.absorb_eq d
  rw [absorbed]

end Absorb

theorem Entry.NotesFit.absorb {t d : Entry} (kept : t.NotesFit) (dup : d.NotesFit) :
    (t.absorb d).NotesFit := by
  obtain ⟨plural, msgstr, absorbed⟩ := t.absorb_eq d
  rw [absorbed]
  exact ⟨forall_mem_pushMissing kept.comments dup.comments,
    forall_mem_pushMissing kept.extracted dup.extracted,
    forall_mem_pushMissing kept.references dup.references,
    forall_mem_pushMissing kept.flags dup.flags, kept.previous⟩

/-- Taking in a duplicate keeps an entry fitting: an adopted plural pads the kept strings, and
adopted strings are the duplicate's, reshaped to what the kept entry has. -/
theorem Entry.Fits.absorb {t d : Entry} (kept : t.Fits) (dup : d.Fits) : (t.absorb d).Fits := by
  have padded : max d.msgstr.length 2 ≤ maxIndex + 1 :=
    Nat.max_le.mpr ⟨dup.bounded, two_le_maxIndex⟩
  have strings : (t.absorb d).msgstr ≠ [] ∧ (t.absorb d).msgstr.length ≤ maxIndex + 1 := by
    unfold Entry.absorb
    simp only [Entry.foldl_addFlag]
    split_ifs with adopt fill fill <;> dsimp only
    · exact reshape_fits dup.forms dup.bounded _ (reshape_fits kept.forms kept.bounded _ padded).2
    · exact reshape_fits kept.forms kept.bounded _ padded
    · exact reshape_fits dup.forms dup.bounded _ kept.bounded
    · exact ⟨kept.forms, kept.bounded⟩
  exact ⟨kept.toNotesFit.absorb dup.toNotesFit, strings.1, strings.2⟩

/-- Taking in a duplicate keeps a plural entry's strings at two or more. -/
theorem Entry.absorb_plural {t : Entry} (d : Entry)
    (plural : t.isPlural = true → 2 ≤ t.msgstr.length) :
    (t.absorb d).isPlural = true → 2 ≤ (t.absorb d).msgstr.length := by
  unfold Entry.absorb
  simp only [Entry.foldl_addFlag]
  split_ifs with adopt fill fill <;> intro many
  · -- the adopted plural padded the kept strings to two at least, before the new ones came
    have adopted : d.msgidPlural.isSome = true := (Bool.and_eq_true _ _ ▸ adopt).2
    simp only [Entry.isPlural, adopted, length_reshape, if_true]
    omega
  · simp only [length_reshape, if_true]
    omega
  · simp only [Entry.isPlural] at many
    simp only [length_reshape, Entry.isPlural, many, if_true]
    have := plural many
    omega
  · exact plural many

/-! ## Normalizing -/

/-- Messages of distinct identities, each with property `P`: what normalizing keeps after the
header. -/
structure Deduped (P : Entry → Prop) (ks : List Entry) : Prop where
  message : ∀ k ∈ ks, k.isHeader = false ∧ P k
  distinct : (ks.map Entry.dedupKey).Nodup

theorem mem_modify {α : Type} {f : α → α} {x : α} :
    ∀ {l : List α} {i : Nat}, x ∈ l.modify i f → x ∈ l ∨ ∃ y ∈ l, x = f y
  | [], _, member => by simp at member
  | y :: l, 0, member => by
    rcases List.mem_cons.mp (by simpa using member) with rfl | later
    · exact .inr ⟨y, List.mem_cons_self, rfl⟩
    · exact .inl (List.mem_cons_of_mem y later)
  | y :: l, i + 1, member => by
    rw [List.modify_succ_cons] at member
    rcases List.mem_cons.mp member with rfl | later
    · exact .inl List.mem_cons_self
    · rcases mem_modify later with kept | ⟨z, inside, rfl⟩
      · exact .inl (List.mem_cons_of_mem y kept)
      · exact .inr ⟨z, List.mem_cons_of_mem y inside, rfl⟩

theorem map_modify {α β : Type} {f : α → α} {k : α → β} (keeps : ∀ x, k (f x) = k x) :
    ∀ (l : List α) (i : Nat), (l.modify i f).map k = l.map k
  | [], _ => by simp
  | y :: l, 0 => by simp [keeps]
  | y :: l, i + 1 => by rw [List.modify_succ_cons, List.map_cons, map_modify keeps l i]; rfl

section Normalizing

variable {P : Entry → Prop} {hd : Entry}

/-- A message taken in after the header either merges into the kept message of its identity
or comes last. -/
theorem keepEntry_deduped (closed : ∀ t d, P t → P d → P (t.absorb d)) {ks : List Entry}
    (kept : Deduped P ks) (header : hd.isHeader = true) {e : Entry} (message : e.isHeader = false)
    (pe : P e) : ∃ ks', keepEntry (hd :: ks, true) e = (hd :: ks', true) ∧ Deduped P ks' := by
  have skipped : (!hd.isHeader && hd.dedupKey == e.dedupKey) = false := by simp [header]
  unfold keepEntry
  simp only [message, Bool.false_eq_true, if_false, List.findIdx?_cons, skipped]
  cases found : ks.findIdx? fun k => !k.isHeader && k.dedupKey == e.dedupKey with
  | some j =>
    -- the kept message of the same identity takes `e` in
    refine ⟨ks.modify j (·.absorb e), by simp, ⟨fun k member => ?_, ?_⟩⟩
    · rcases mem_modify member with old | ⟨y, old, rfl⟩
      · exact kept.message k old
      · obtain ⟨plain, py⟩ := kept.message y old
        exact ⟨by rw [Entry.isHeader_absorb, plain], closed y e py pe⟩
    · rw [map_modify (fun y => Entry.dedupKey_absorb y e)]
      exact kept.distinct
  | none =>
    -- no kept message has `e`'s identity, so `e` comes last
    have fresh : ∀ k ∈ ks, k.dedupKey ≠ e.dedupKey := by
      intro k member same
      have := List.findIdx?_eq_none_iff.mp found k member
      simp [(kept.message k member).1, same] at this
    refine ⟨ks ++ [e], by simp, ⟨fun k member => ?_, ?_⟩⟩
    · rcases List.mem_append.mp member with old | last
      · exact kept.message k old
      · rw [List.mem_singleton.mp last]
        exact ⟨message, pe⟩
    · rw [List.map_append, List.nodup_append]
      refine ⟨kept.distinct, by simp, fun a inside b last => ?_⟩
      obtain ⟨k, member, rfl⟩ := List.mem_map.mp inside
      rw [List.map_singleton, List.mem_singleton] at last
      exact last ▸ fresh k member

/-- Messages with property `P`, taken in after the header one by one, leave the header first
and messages of distinct identities with property `P`. -/
theorem foldl_keepEntry_deduped (closed : ∀ t d, P t → P d → P (t.absorb d))
    (header : hd.isHeader = true) :
    ∀ {rest ks : List Entry}, (∀ e ∈ rest, e.isHeader = false ∧ P e) → Deduped P ks →
      ∃ ks', rest.foldl keepEntry (hd :: ks, true) = (hd :: ks', true) ∧ Deduped P ks'
  | [], ks, _, kept => ⟨ks, rfl, kept⟩
  | e :: rest, _, messages, kept => by
    obtain ⟨plain, pe⟩ := messages e List.mem_cons_self
    obtain ⟨ks', step, kept'⟩ := keepEntry_deduped closed kept header plain pe
    rw [List.foldl_cons, step]
    exact foldl_keepEntry_deduped closed header
      (fun e' member => messages e' (List.mem_cons_of_mem e member)) kept'

/-- Normalizing a catalog that opens with its header and holds no other keeps the header first
and leaves messages of distinct identities, each with every property of the messages that
taking in a duplicate keeps. -/
theorem Catalog.normalize_header_cons (closed : ∀ t d, P t → P d → P (t.absorb d))
    (header : hd.isHeader = true) {rest : List Entry}
    (messages : ∀ e ∈ rest, e.isHeader = false ∧ P e) :
    ∃ ks, ({ entries := hd :: rest } : Catalog).normalize = { entries := hd :: ks } ∧
      Deduped P ks := by
  obtain ⟨ks, folded, kept⟩ :=
    foldl_keepEntry_deduped closed header messages (⟨by simp, by simp⟩ : Deduped P [])
  refine ⟨ks, ?_, kept⟩
  have first : keepEntry ([], false) hd = ([hd], true) := by simp [keepEntry, header]
  simp only [Catalog.normalize, List.foldl_cons, first]
  rw [folded]

end Normalizing

/-! ## Merging -/

theorem Entry.Fits.mergeWith {old new : Entry} (o : old.Fits) (n : new.Fits) :
    (old.mergeWith new).Fits := by
  have fuzzy : ∀ f ∈ (if old.isPlural != new.isPlural && old.isFilled then ["fuzzy"] else []),
      IsFlag f := by
    split
    · simpa using isFlag_fuzzy
    · simp
  have previous : ∀ p ∈ (if old.isFuzzy then old.previous else []), TrimmedLine p := by
    split
    · exact o.previous
    · simp
  have strings := reshape_fits o.forms o.bounded new.isPlural
    (Nat.max_le.mpr ⟨n.bounded, two_le_maxIndex⟩)
  rw [Entry.mergeWith_eq]
  exact ⟨⟨o.comments, n.extracted, n.references,
    forall_mem_pushMissing n.flags (List.forall_mem_append.mpr ⟨o.flags, fuzzy⟩), previous⟩,
    strings.1, strings.2⟩

theorem Entry.Fits.retired {e : Entry} (fit : e.Fits) : e.retired.Fits :=
  ⟨⟨fit.comments, fit.extracted, by simp [Entry.retired], fit.flags, fit.previous⟩, fit.forms,
    fit.bounded⟩

/-- The header of a merge fits when both headers do: a dated header keeps its notes and has one
string. -/
theorem fits_mergedHeader {old new : Option Entry} (o : ∀ h ∈ old, h.Fits)
    (n : ∀ h ∈ new, h.Fits) : ∀ h ∈ mergedHeader old new, h.Fits := by
  intro h member
  unfold mergedHeader at member
  split at member
  · rename_i kept
    have fit := o kept rfl
    split at member
    · cases member
      exact ⟨⟨fit.comments, fit.extracted, fit.references, fit.flags, fit.previous⟩, by simp,
        by simp [maxIndex]⟩
    · cases member
      exact fit
  · exact n h member

theorem Catalog.fits_header? {c : Catalog} (fit : ∀ e ∈ c.entries, e.Fits) :
    ∀ h ∈ c.header?, h.Fits :=
  fun h found => fit h (List.mem_of_find?_eq_some found)

/-- Merging keeps entries fitting: every entry of a merge of two catalogs whose entries fit
fits. -/
theorem Catalog.fits_merge {E I : Catalog} (existing : ∀ e ∈ E.entries, e.Fits)
    (incoming : ∀ e ∈ I.entries, e.Fits) : ∀ m ∈ (E.merge I).entries, m.Fits := by
  intro m member
  rw [Catalog.merge_entries, List.mem_append, List.mem_append] at member
  rcases member with (header | built) | retired
  · exact fits_mergedHeader (Catalog.fits_header? existing) (Catalog.fits_header? incoming) m
      (Option.mem_toList.mp header)
  · obtain ⟨n, message, rfl⟩ := List.mem_map.mp built
    have fit := incoming n (Catalog.mem_entries_of_mem_messages message)
    unfold Catalog.mergedFrom
    split
    · rename_i old i found
      have chosen := selectFor_eq_some_iff.mp found
      exact (existing old (List.mem_of_getElem? chosen.1)).mergeWith fit
    · exact fit
  · rw [filterMap_retiring] at retired
    obtain ⟨y, kept, rfl⟩ := List.mem_map.mp retired
    exact (existing y.1 (List.mem_zipIdx_iff_getElem?.mp (List.mem_filter.mp kept).1 |>
      List.mem_of_getElem?)).retired

end Localize.Po
