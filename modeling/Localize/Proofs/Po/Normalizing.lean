import Localize.Proofs.Po.Invariants
import Localize.Proofs.Store.Catalog

/-! # Normalizing keeps one entry per identity and loses nothing

Normalizing gives each entry a place (`Entry.slot`): the header's place, or the place of its
identity (obsolete or not, context, id). It keeps one entry per place, in the order of each
place's first entry (`Catalog.normalize_entries`): the first header, and for an identity its
first entry having taken in every later one in order (`keptOf`).

`Catalog.normalize_dedup` reads the first half off this: only the first header stays, the
messages have distinct identities, one for each identity of the catalog in the order of its
first occurrence, and normalizing again changes nothing. `Catalog.normalize_keeps_group` reads
the second: the entry kept for an identity is its first entry with the notes and flags of the
later ones appended where missing, the first plural id of the group, and strings that start as
the first filled strings of the group.

The proof follows normalizing one entry at a time (`keepEntry_normalized`), through the two
cases of `keepEntry`: a place seen before takes the entry in, a new place keeps it last.
-/

namespace Localize.Po

open Localize

/-! ## Places -/

/-- Where normalizing keeps an entry: at the header's place (`none`), or at its identity's. -/
def Entry.slot (e : Entry) : Option (Bool × Option String × String) :=
  if e.isHeader then none else some e.dedupKey

/-- The entries of `es` at place `s`, in order. -/
def slotGroup (es : List Entry) (s : Option (Bool × Option String × String)) : List Entry :=
  es.filter (·.slot == s)

/-- What normalizing keeps of the entries at one place: the first header alone, or the first
entry of an identity having taken in the later ones in order. Normalizing never asks for the
entry of an empty place. -/
def keptOf : List Entry → Entry
  | [] => default
  | g :: gs => if g.isHeader then g else gs.foldl Entry.absorb g

/-- The entries normalizing keeps: one per place of `es`, in the order of each place's first
entry. -/
def normalized (es : List Entry) : List Entry :=
  (es.map Entry.slot).eraseDups.map fun s => keptOf (slotGroup es s)

theorem Entry.slot_eq_none_iff (e : Entry) : e.slot = none ↔ e.isHeader = true := by
  unfold Entry.slot
  split <;> simp_all

/-- Being at the place of identity `k` is having that identity without being the header. -/
theorem Entry.slot_beq_some (e : Entry) (k : Bool × Option String × String) :
    (e.slot == some k) = (!e.isHeader && e.dedupKey == k) := by
  unfold Entry.slot
  cases e.isHeader <;> simp

theorem Entry.isHeader_of_slot {e : Entry} {k : Bool × Option String × String}
    (placed : e.slot = some k) : e.isHeader = false := by
  rw [← Bool.not_eq_true, ← Entry.slot_eq_none_iff, placed]
  exact Option.some_ne_none k

theorem Entry.slot_of_message {e : Entry} (message : e.isHeader = false) :
    e.slot = some e.dedupKey := by
  simp [Entry.slot, message]

/-- For a message `d`, sharing `d`'s place is sharing its identity without being the header. -/
theorem Entry.slot_beq_of_message {d : Entry} (message : d.isHeader = false) (e : Entry) :
    (e.slot == d.slot) = (!e.isHeader && e.dedupKey == d.dedupKey) := by
  rw [Entry.slot_of_message message, Entry.slot_beq_some]

@[simp] theorem Entry.slot_absorb (t d : Entry) : (t.absorb d).slot = t.slot := by
  simp [Entry.slot]

theorem slot_foldl_absorb (g : Entry) (gs : List Entry) :
    (gs.foldl Entry.absorb g).slot = g.slot := by
  induction gs generalizing g with
  | nil => rfl
  | cons d ds ih => rw [List.foldl_cons, ih, Entry.slot_absorb]

/-- The entries of `es` at their places, in order: the places of the messages are their
identities. -/
theorem filterMap_slot (es : List Entry) :
    es.filterMap Entry.slot = (es.filter (!·.isHeader)).map Entry.dedupKey := by
  induction es with
  | nil => rfl
  | cons e es ih =>
    by_cases header : e.isHeader
    · have place : e.slot = none := (Entry.slot_eq_none_iff e).mpr header
      simp [place, header, ih]
    · have place := Entry.slot_of_message (Bool.eq_false_iff.mpr header)
      simp [place, header, ih]

/-! ## The groups of a place -/

theorem slotGroup_concat (es : List Entry) (e : Entry)
    (s : Option (Bool × Option String × String)) :
    slotGroup (es ++ [e]) s = slotGroup es s ++ if e.slot = s then [e] else [] := by
  unfold slotGroup
  by_cases same : e.slot = s <;> simp [List.filter_append, same]

theorem slotGroup_eq_nil {es : List Entry} {s : Option (Bool × Option String × String)}
    (absent : s ∉ es.map Entry.slot) : slotGroup es s = [] :=
  List.filter_eq_nil_iff.mpr fun e member same =>
    absent (List.mem_map.mpr ⟨e, member, by simpa using same⟩)

/-- A place of `es` has a group, headed by an entry at that place. -/
theorem slotGroup_eq_cons {es : List Entry} {s : Option (Bool × Option String × String)}
    (present : s ∈ es.map Entry.slot) : ∃ g gs, slotGroup es s = g :: gs ∧ g.slot = s := by
  cases grouped : slotGroup es s with
  | nil =>
    obtain ⟨e, member, rfl⟩ := List.mem_map.mp present
    exact absurd grouped (List.ne_nil_of_mem (List.mem_filter.mpr ⟨member, by simp⟩))
  | cons g gs =>
    have : g ∈ slotGroup es s := by rw [grouped]; exact List.mem_cons_self
    exact ⟨g, gs, rfl, by simpa [slotGroup] using (List.mem_filter.mp this).2⟩

theorem keptOf_singleton (e : Entry) : keptOf [e] = e := by
  by_cases header : e.isHeader <;> simp [keptOf, header]

/-- One more entry at a place: a header's place ignores it, an identity's entry takes it in. -/
theorem keptOf_concat (g : Entry) (gs : List Entry) (e : Entry) :
    keptOf (g :: gs ++ [e]) =
      if g.isHeader then keptOf (g :: gs) else (keptOf (g :: gs)).absorb e := by
  by_cases header : g.isHeader <;> simp [keptOf, header, List.foldl_append]

theorem slot_keptOf (g : Entry) (gs : List Entry) : (keptOf (g :: gs)).slot = g.slot := by
  by_cases header : g.isHeader
  · simp [keptOf, header]
  · simpa [keptOf, header] using slot_foldl_absorb g gs

theorem slot_keptOf_slotGroup {es : List Entry} {s : Option (Bool × Option String × String)}
    (present : s ∈ es.map Entry.slot) : (keptOf (slotGroup es s)).slot = s := by
  obtain ⟨g, gs, grouped, at_s⟩ := slotGroup_eq_cons present
  rw [grouped, slot_keptOf, at_s]

/-- The kept entries are at the places of `es`, once each, in the order of first occurrence. -/
theorem map_slot_normalized (es : List Entry) :
    (normalized es).map Entry.slot = (es.map Entry.slot).eraseDups := by
  unfold normalized
  rw [List.map_map]
  conv => rhs; rw [← List.map_id (es.map Entry.slot).eraseDups]
  exact List.map_congr_left fun s member => slot_keptOf_slotGroup (List.mem_eraseDups.mp member)

theorem any_isHeader_iff (es : List Entry) :
    es.any Entry.isHeader = true ↔ none ∈ es.map Entry.slot := by
  rw [List.any_eq_true, List.mem_map]
  exact exists_congr fun e => and_congr_right fun _ => (Entry.slot_eq_none_iff e).symm

/-! ## Normalizing one entry at a time -/

theorem slotGroup_concat_of_ne {es : List Entry} {e : Entry}
    {s : Option (Bool × Option String × String)} (other : s ≠ e.slot) :
    slotGroup (es ++ [e]) s = slotGroup es s := by
  rw [slotGroup_concat, if_neg (Ne.symm other), List.append_nil]

/-- An entry at a new place is kept last, as it is. -/
theorem normalized_concat_of_fresh {es : List Entry} {e : Entry}
    (fresh : e.slot ∉ es.map Entry.slot) : normalized (es ++ [e]) = normalized es ++ [e] := by
  have alone : slotGroup (es ++ [e]) e.slot = [e] := by
    rw [slotGroup_concat, slotGroup_eq_nil fresh, if_pos rfl, List.nil_append]
  unfold normalized
  rw [List.map_append, List.map_singleton, eraseDups_concat_of_not_mem fresh, List.map_append,
    List.map_singleton, alone, keptOf_singleton]
  refine congrArg (· ++ [e]) (List.map_congr_left fun s member => ?_)
  have other : s ≠ e.slot := fun same => fresh (same ▸ List.mem_eraseDups.mp member)
  rw [slotGroup_concat_of_ne other]

/-- A header after the first changes nothing. -/
theorem normalized_concat_of_header {es : List Entry} {e : Entry} (header : e.isHeader = true)
    (seen : e.slot ∈ es.map Entry.slot) : normalized (es ++ [e]) = normalized es := by
  obtain ⟨g, gs, grouped, at_e⟩ := slotGroup_eq_cons seen
  have first : g.isHeader = true :=
    (Entry.slot_eq_none_iff g).mp (at_e.trans ((Entry.slot_eq_none_iff e).mpr header))
  unfold normalized
  rw [List.map_append, List.map_singleton, eraseDups_concat_of_mem seen]
  refine List.map_congr_left fun s _ => ?_
  by_cases here : s = e.slot
  · rw [here, slotGroup_concat, grouped, if_pos rfl, keptOf_concat, if_pos first]
  · rw [slotGroup_concat_of_ne here]

/-- A message whose identity has a kept entry is taken in by that entry, which normalizing
finds at the position of the identity's first occurrence. -/
theorem normalized_concat_of_message {es : List Entry} {e : Entry} (message : e.isHeader = false)
    (seen : e.slot ∈ es.map Entry.slot) : ∃ i,
      (normalized es).findIdx? (fun k => !k.isHeader && k.dedupKey == e.dedupKey) = some i ∧
      normalized (es ++ [e]) = (normalized es).modify i (·.absorb e) := by
  obtain ⟨i, bound, at_i⟩ := List.getElem_of_mem (List.mem_eraseDups.mpr seen)
  obtain ⟨g, gs, grouped, at_e⟩ := slotGroup_eq_cons seen
  have first : g.isHeader = false :=
    Entry.isHeader_of_slot (at_e.trans (Entry.slot_of_message message))
  refine ⟨i, findIdx?_map_of_nodup (nodup_eraseDups _) bound fun s member => ?_, ?_⟩
  · rw [← Entry.slot_beq_of_message message, slot_keptOf_slotGroup (List.mem_eraseDups.mp member),
      at_i]
  · unfold normalized
    rw [List.map_append, List.map_singleton, eraseDups_concat_of_mem seen]
    refine (modify_map_of_nodup (nodup_eraseDups _) bound ?_ fun s _ other => ?_).symm
    · rw [at_i, slotGroup_concat, grouped, if_pos rfl, keptOf_concat, if_neg (by simp [first])]
    · rw [slotGroup_concat_of_ne (at_i ▸ other)]

/-- Normalizing one more entry keeps one entry per place of the longer list. -/
theorem keepEntry_normalized (es : List Entry) (e : Entry) :
    keepEntry (normalized es, es.any Entry.isHeader) e =
      (normalized (es ++ [e]), (es ++ [e]).any Entry.isHeader) := by
  by_cases seen : e.slot ∈ es.map Entry.slot
  · cases header : e.isHeader
    · -- a message of a known identity merges into its kept entry
      obtain ⟨i, found, merged⟩ := normalized_concat_of_message header seen
      simp [keepEntry, header, found, merged]
    · -- a header after the first is dropped
      have headed : es.any Entry.isHeader = true := by
        rwa [any_isHeader_iff, ← (Entry.slot_eq_none_iff e).mpr header]
      simp [keepEntry, header, headed, normalized_concat_of_header header seen]
  · -- the first entry at its place comes last
    rw [normalized_concat_of_fresh seen]
    cases header : e.isHeader
    · have missing : (normalized es).findIdx? (fun k => !k.isHeader && k.dedupKey == e.dedupKey) =
          none := by
        rw [List.findIdx?_eq_none_iff]
        intro k member
        have placed : k.slot ∈ (normalized es).map Entry.slot := List.mem_map_of_mem member
        rw [map_slot_normalized, List.mem_eraseDups] at placed
        rw [← Entry.slot_beq_of_message header, beq_eq_false_iff_ne]
        exact fun same => seen (same ▸ placed)
      simp [keepEntry, header, missing]
    · have unheaded : es.any Entry.isHeader = false := by
        rw [← Bool.not_eq_true, any_isHeader_iff, ← (Entry.slot_eq_none_iff e).mpr header]
        exact seen
      simp [keepEntry, header, unheaded]

/-- Normalizing a list of entries keeps one entry per place; a header is kept once there is
one. -/
theorem foldl_keepEntry (es : List Entry) :
    es.foldl keepEntry ([], false) = (normalized es, es.any Entry.isHeader) := by
  induction es using List.reverseRecOn with
  | nil => rfl
  | append_singleton es e ih =>
    rw [List.foldl_append, ih, List.foldl_cons, List.foldl_nil, keepEntry_normalized]

/-- A catalog normalizes to one entry per place of its entries: the first header, and the
first entry of each identity having taken in the later ones, in the order of first occurrence. -/
theorem Catalog.normalize_entries (c : Catalog) : c.normalize.entries = normalized c.entries := by
  simp [Catalog.normalize, foldl_keepEntry]

/-! ## Taking in the later entries of an identity -/

section Absorb

variable (t d : Entry)

theorem Entry.msgidPlural_absorb : (t.absorb d).msgidPlural = t.msgidPlural.or d.msgidPlural := by
  unfold Entry.absorb
  simp only [Entry.foldl_addFlag]
  cases t.msgidPlural <;> cases d.msgidPlural <;> split_ifs <;> simp_all

theorem isFilled_reshape_plural (msgstr : List String) (forms : Nat) :
    (reshape msgstr true forms).any (fun s => !s.isEmpty) = msgstr.any fun s => !s.isEmpty := by
  simp [reshape]

variable {t d}

/-- Padding the strings of a filled entry keeps it filled, with its first string. -/
theorem reshape_plural_of_filled {msgstr : List String}
    (filled : (msgstr.any fun s => !s.isEmpty) = true) (forms : Nat) : ((reshape msgstr true forms).any fun s => !s.isEmpty) = true ∧
      (reshape msgstr true forms).head? = msgstr.head? := by
  cases msgstr with
  | nil => simp at filled
  | cons s rest => simpa [reshape] using filled

/-- A filled entry stays filled and keeps its first string. -/
theorem Entry.absorb_of_filled (filled : t.isFilled = true) :
    (t.absorb d).isFilled = true ∧ (t.absorb d).msgstr.head? = t.msgstr.head? := by
  unfold Entry.absorb
  simp only [Entry.foldl_addFlag]
  unfold Entry.isFilled at filled ⊢
  split_ifs with adopt fill fill
  · -- padding keeps the strings filled, so they are not replaced
    rw [isFilled_reshape_plural, filled] at fill
    simp at fill
  · exact reshape_plural_of_filled filled _
  · rw [filled] at fill
    simp at fill
  · exact ⟨filled, rfl⟩

theorem Entry.absorb_of_unfilled (unfilled : t.isFilled = false) (empty : d.isFilled = false) :
    (t.absorb d).isFilled = false := by
  unfold Entry.absorb
  simp only [Entry.foldl_addFlag]
  unfold Entry.isFilled at unfilled empty ⊢
  split_ifs with adopt fill fill
  · simp [empty] at fill
  · rw [isFilled_reshape_plural, unfilled]
  · simp [empty] at fill
  · exact unfilled

/-- An unfilled entry takes the strings of a filled duplicate, reshaped, as long as a singular
duplicate has one string: the plural id, if the duplicate brings one, comes first. -/
theorem Entry.absorb_of_fill (unfilled : t.isFilled = false) (filled : d.isFilled = true)
    (shaped : d.msgidPlural = none → d.msgstr.length = 1) :
    (t.absorb d).isFilled = true ∧ (t.absorb d).msgstr.head? = d.msgstr.head? := by
  unfold Entry.absorb
  simp only [Entry.foldl_addFlag]
  unfold Entry.isFilled at unfilled filled ⊢
  split_ifs with adopt fill fill
  · -- the duplicate's plural id came first, so its strings are padded as a plural's
    have plural : d.msgidPlural.isSome = true := (Bool.and_eq_true _ _ ▸ adopt).2
    simpa [Entry.isPlural, plural] using reshape_plural_of_filled filled _
  · rw [isFilled_reshape_plural, unfilled, filled] at fill
    simp at fill
  · cases plural : t.msgidPlural with
    | some p => simpa [Entry.isPlural, plural] using reshape_plural_of_filled filled _
    | none =>
      -- a singular entry stays singular only beside a singular duplicate, of one string
      have single : d.msgidPlural = none := by simpa [plural] using adopt
      obtain ⟨x, one⟩ := List.length_eq_one_iff.mp (shaped single)
      rw [one] at filled ⊢
      simpa [Entry.isPlural, plural, reshape] using filled
  · rw [unfilled, filled] at fill
    simp at fill

end Absorb

/-- What the entry kept for the entries `g :: gs` of one identity, in catalog order, holds. -/
structure GroupKept (g : Entry) (gs : List Entry) (kept : Entry) : Prop where
  /-- It is `g` with the references, comments and flags of the later entries appended where
  missing, in order, and a plural id and strings of its own. -/
  notes : ∃ plural msgstr, kept =
    { g with
      references := pushMissing g.references (gs.flatMap (·.references))
      extracted := pushMissing g.extracted (gs.flatMap (·.extracted))
      comments := pushMissing g.comments (gs.flatMap (·.comments))
      flags := pushMissing g.flags (gs.flatMap (·.flags))
      msgidPlural := plural
      msgstr := msgstr }
  /-- Its plural id is the first one of the group. -/
  plural : kept.msgidPlural = (g :: gs).findSome? (·.msgidPlural)
  /-- When `g` is filled, its first string stays. -/
  first : g.isFilled = true → kept.msgstr.head? = g.msgstr.head?
  /-- When every later singular entry has one string, it is filled exactly when some entry of
  the group is, and then starts with the first string of the first filled one. -/
  filled : (∀ d ∈ gs, d.msgidPlural = none → d.msgstr.length = 1) →
    kept.isFilled = (g :: gs).any Entry.isFilled ∧
      ∀ d, (g :: gs).find? Entry.isFilled = some d → kept.msgstr.head? = d.msgstr.head?

theorem foldl_absorb_notes (g : Entry) (gs : List Entry) : ∃ plural msgstr,
    gs.foldl Entry.absorb g =
      { g with
        references := pushMissing g.references (gs.flatMap (·.references))
        extracted := pushMissing g.extracted (gs.flatMap (·.extracted))
        comments := pushMissing g.comments (gs.flatMap (·.comments))
        flags := pushMissing g.flags (gs.flatMap (·.flags))
        msgidPlural := plural
        msgstr := msgstr } := by
  induction gs generalizing g with
  | nil => exact ⟨g.msgidPlural, g.msgstr, rfl⟩
  | cons d ds ih =>
    obtain ⟨plural, msgstr, folded⟩ := ih (g.absorb d)
    obtain ⟨plural', msgstr', absorbed⟩ := Entry.absorb_eq g d
    refine ⟨plural, msgstr, ?_⟩
    rw [List.foldl_cons, folded, absorbed]
    simp [pushMissing_append]

theorem foldl_absorb_msgidPlural (g : Entry) (gs : List Entry) :
    (gs.foldl Entry.absorb g).msgidPlural = (g :: gs).findSome? (·.msgidPlural) := by
  induction gs generalizing g with
  | nil => cases plural : g.msgidPlural <;> simp [plural]
  | cons d ds ih =>
    rw [List.foldl_cons, ih, List.findSome?_cons, List.findSome?_cons, List.findSome?_cons,
      Entry.msgidPlural_absorb]
    cases g.msgidPlural <;> cases d.msgidPlural <;> rfl

/-- Once filled, the kept entry stays filled with its first string. -/
theorem foldl_absorb_of_filled {g : Entry} (filled : g.isFilled = true) (gs : List Entry) :
    (gs.foldl Entry.absorb g).isFilled = true ∧
      (gs.foldl Entry.absorb g).msgstr.head? = g.msgstr.head? := by
  induction gs generalizing g with
  | nil => exact ⟨filled, rfl⟩
  | cons d ds ih =>
    obtain ⟨stays, first⟩ := Entry.absorb_of_filled (d := d) filled
    obtain ⟨stays', first'⟩ := ih stays
    rw [List.foldl_cons]
    exact ⟨stays', first'.trans first⟩

/-- With one string for each later singular entry, the kept entry is filled when some entry is,
with the first string of the first filled one. -/
theorem foldl_absorb_filled (g : Entry) {gs : List Entry}
    (shaped : ∀ d ∈ gs, d.msgidPlural = none → d.msgstr.length = 1) :
    (gs.foldl Entry.absorb g).isFilled = (g :: gs).any Entry.isFilled ∧
      ∀ d, (g :: gs).find? Entry.isFilled = some d →
        (gs.foldl Entry.absorb g).msgstr.head? = d.msgstr.head? := by
  induction gs generalizing g with
  | nil =>
    refine ⟨by simp, fun d found => ?_⟩
    cases filled : g.isFilled <;> simp_all
  | cons d ds ih =>
    rw [List.foldl_cons]
    cases filled : g.isFilled
    · cases filled' : d.isFilled
      · -- neither is filled: the group's filled strings are the later ones'
        have empty := Entry.absorb_of_unfilled filled filled'
        obtain ⟨same, first⟩ :=
          ih (g.absorb d) fun x member => shaped x (List.mem_cons_of_mem d member)
        refine ⟨by simp [same, empty, filled, filled'], fun x found => first x ?_⟩
        simpa [List.find?_cons, empty, filled, filled'] using found
      · -- the first filled entry of the group is `d`, whose strings the kept entry takes
        obtain ⟨now, first⟩ := Entry.absorb_of_fill filled filled' (shaped d List.mem_cons_self)
        obtain ⟨stays, kept⟩ := foldl_absorb_of_filled now ds
        refine ⟨by simp [stays, filled'], fun x found => ?_⟩
        rw [kept, first]
        simp [filled, filled'] at found
        rw [found]
    · obtain ⟨stays, kept⟩ := foldl_absorb_of_filled (Entry.absorb_of_filled (d := d) filled).1 ds
      refine ⟨by simp [stays, filled], fun x found => ?_⟩
      rw [kept, (Entry.absorb_of_filled filled).2]
      simp [filled] at found
      rw [found]

/-- The first entry of an identity, having taken in the later ones, is what the group keeps. -/
theorem groupKept_foldl (g : Entry) (gs : List Entry) : GroupKept g gs (gs.foldl Entry.absorb g) :=
  ⟨foldl_absorb_notes g gs, foldl_absorb_msgidPlural g gs,
    fun filled => (foldl_absorb_of_filled filled gs).2, foldl_absorb_filled g⟩

/-! ## The normalized catalog -/

theorem eraseDups_of_nodup {α : Type} [BEq α] [LawfulBEq α] :
    ∀ {l : List α}, l.Nodup → l.eraseDups = l
  | [], _ => rfl
  | a :: as, distinct => by
    rw [List.nodup_cons] at distinct
    have others : as.filter (fun b => !b == a) = as :=
      List.filter_eq_self.mpr fun b member => by
        simpa using fun same : b = a => distinct.1 (same ▸ member)
    rw [List.eraseDups_cons, others, eraseDups_of_nodup distinct.2]

/-- Dropping the repeats of optional values drops the repeats of the values. -/
theorem filterMap_id_eraseDups {α : Type} [BEq α] [LawfulBEq α] (l : List (Option α)) :
    l.eraseDups.filterMap id = (l.filterMap id).eraseDups := by
  -- from the end, as `eraseDups` keeps or drops a last element by whether it was seen
  induction l using List.reverseRecOn with
  | nil => rfl
  | append_singleton l x ih =>
    rw [List.filterMap_append]
    have dropped : List.filterMap id [none] = ([] : List α) := rfl
    by_cases seen : x ∈ l
    · rw [eraseDups_concat_of_mem seen, ih]
      cases x with
      | none => rw [dropped, List.append_nil]
      | some a =>
        have kept : List.filterMap id [some a] = [a] := rfl
        rw [kept, eraseDups_concat_of_mem (by simpa using seen : a ∈ l.filterMap id)]
    · rw [eraseDups_concat_of_not_mem seen, List.filterMap_append, ih]
      cases x with
      | none => rw [dropped, List.append_nil, List.append_nil]
      | some a =>
        have kept : List.filterMap id [some a] = [a] := rfl
        rw [kept, eraseDups_concat_of_not_mem (by simpa using seen : a ∉ l.filterMap id)]

/-- Among entries at distinct places, an entry is alone at its place. -/
theorem slotGroup_of_nodup {es : List Entry} (distinct : (es.map Entry.slot).Nodup) {e : Entry}
    (member : e ∈ es) : slotGroup es e.slot = [e] := by
  induction es with
  | nil => cases member
  | cons x xs ih =>
    rw [List.map_cons, List.nodup_cons] at distinct
    unfold slotGroup at ih ⊢
    rcases List.mem_cons.mp member with rfl | later
    · have alone : xs.filter (·.slot == e.slot) = [] :=
        List.filter_eq_nil_iff.mpr fun y inside same => by
          have placed : y.slot ∈ xs.map Entry.slot := List.mem_map_of_mem inside
          rw [beq_iff_eq.mp same] at placed
          exact distinct.1 placed
      simp [alone]
    · have other : x.slot ≠ e.slot := fun same => distinct.1 (same ▸ List.mem_map_of_mem later)
      simp [other, ih distinct.2 later]

/-- Entries at distinct places are normalized already. -/
theorem normalized_of_nodup {es : List Entry} (distinct : (es.map Entry.slot).Nodup) :
    normalized es = es := by
  unfold normalized
  rw [eraseDups_of_nodup distinct, List.map_map]
  conv => rhs; rw [← List.map_id es]
  exact List.map_congr_left fun e member => by
    simp [slotGroup_of_nodup distinct member, keptOf_singleton]

theorem nodup_map_slot_normalized (es : List Entry) : ((normalized es).map Entry.slot).Nodup := by
  rw [map_slot_normalized]
  exact nodup_eraseDups _

/-- The entry kept for a place of `es` is alone at its place among the normalized entries. -/
theorem slotGroup_normalized {es : List Entry} {s : Option (Bool × Option String × String)}
    (present : s ∈ es.map Entry.slot) :
    slotGroup (normalized es) s = [keptOf (slotGroup es s)] := by
  have member : keptOf (slotGroup es s) ∈ normalized es :=
    List.mem_map_of_mem (List.mem_eraseDups.mpr present)
  have placed := slotGroup_of_nodup (nodup_map_slot_normalized es) member
  rwa [slot_keptOf_slotGroup present] at placed

theorem filter_isHeader_eq_slotGroup (es : List Entry) :
    es.filter Entry.isHeader = slotGroup es none :=
  List.filter_congr fun e _ => by
    rw [Bool.eq_iff_iff, beq_iff_eq, Entry.slot_eq_none_iff]

theorem filter_identity_eq_slotGroup (es : List Entry) (k : Bool × Option String × String) :
    es.filter (fun e => !e.isHeader && e.dedupKey == k) = slotGroup es (some k) :=
  List.filter_congr fun e _ => (Entry.slot_beq_some e k).symm

/-- Normalizing keeps only the first header, and one message for each identity of the catalog's
messages, in the order of the identity's first occurrence; so the messages it keeps have distinct
identities, and normalizing again changes nothing. -/
theorem Catalog.normalize_one_per_identity (c : Catalog) :
    c.normalize.entries.filter Entry.isHeader = c.header?.toList ∧
      (c.normalize.entries.filter (!·.isHeader)).map Entry.dedupKey =
        ((c.entries.filter (!·.isHeader)).map Entry.dedupKey).eraseDups ∧
      ((c.normalize.entries.filter (!·.isHeader)).map Entry.dedupKey).Nodup ∧
      c.normalize.normalize = c.normalize := by
  have identities : (c.normalize.entries.filter (!·.isHeader)).map Entry.dedupKey =
      ((c.entries.filter (!·.isHeader)).map Entry.dedupKey).eraseDups := by
    have viaSlots : ∀ l : List Entry, l.filterMap Entry.slot = (l.map Entry.slot).filterMap id :=
      fun l => by rw [List.filterMap_map]; rfl
    rw [← filterMap_slot, ← filterMap_slot, Catalog.normalize_entries, viaSlots, viaSlots,
      map_slot_normalized, filterMap_id_eraseDups]
  refine ⟨?_, identities, identities ▸ nodup_eraseDups _, ?_⟩
  · rw [Catalog.normalize_entries, filter_isHeader_eq_slotGroup, Catalog.header?]
    by_cases headed : none ∈ c.entries.map Entry.slot
    · obtain ⟨h, hs, grouped, placed⟩ := slotGroup_eq_cons headed
      have header : h.isHeader = true := (Entry.slot_eq_none_iff h).mp placed
      have first : c.entries.find? Entry.isHeader = some h := by
        rw [← List.head?_filter, filter_isHeader_eq_slotGroup, grouped]
        rfl
      rw [slotGroup_normalized headed, grouped, first]
      simp [keptOf, header]
    · have none_first : c.entries.find? Entry.isHeader = none := by
        rw [List.find?_eq_none]
        intro e member header
        exact headed (List.mem_map.mpr ⟨e, member, (Entry.slot_eq_none_iff e).mpr header⟩)
      rw [none_first, slotGroup_eq_nil (by rwa [map_slot_normalized, List.mem_eraseDups])]
      rfl
  · -- the kept entries are at distinct places, and such entries are normalized already
    have again : c.normalize.normalize.entries = c.normalize.entries := by
      rw [Catalog.normalize_entries c.normalize, Catalog.normalize_entries,
        normalized_of_nodup (nodup_map_slot_normalized _)]
    exact congrArg Catalog.mk again

/-- For the entries `g :: gs` of one identity, in catalog order, normalizing keeps exactly one
entry of that identity: `g` having taken in the others (`GroupKept`). -/
theorem Catalog.normalize_keeps_group (c : Catalog) {k : Bool × Option String × String}
    {g : Entry} {gs : List Entry}
    (group : c.entries.filter (fun e => !e.isHeader && e.dedupKey == k) = g :: gs) :
    ∃ kept, c.normalize.entries.filter (fun e => !e.isHeader && e.dedupKey == k) = [kept] ∧
      GroupKept g gs kept := by
  rw [filter_identity_eq_slotGroup] at group
  obtain ⟨member, placed⟩ :=
    List.mem_filter.mp (group ▸ List.mem_cons_self : g ∈ slotGroup c.entries (some k))
  rw [beq_iff_eq] at placed
  have message : g.isHeader = false := Entry.isHeader_of_slot placed
  have present : some k ∈ c.entries.map Entry.slot := List.mem_map.mpr ⟨g, member, placed⟩
  refine ⟨gs.foldl Entry.absorb g, ?_, groupKept_foldl g gs⟩
  rw [Catalog.normalize_entries, filter_identity_eq_slotGroup, slotGroup_normalized present, group]
  simp [keptOf, message]

/-- The message `File`, untranslated and singular, from `a.go`. -/
def fileEntry : Entry := { references := ["a.go:1"], msgid := "File", msgstr := [""] }

/-- Two later entries of `File`: untranslated and plural, then translated, fuzzy and plural. -/
def fileDuplicates : List Entry :=
  [{ references := ["b.html:2"], msgid := "File", msgidPlural := some "Files", msgstr := ["", ""] },
   { references := ["a.go:1", "c.go:3"], flags := ["fuzzy"], msgid := "File",
     msgidPlural := some "Files", msgstr := ["Fichier", "Fichiers"] }]

/-- A header, then the entries of `File` with an entry of another context between them. -/
def fileCatalog : Catalog :=
  { entries := { msgstr := ["Language: fr\n"] } :: fileEntry ::
      { msgctxt := some "menu", msgid := "File", msgstr := [""] } :: fileDuplicates }

theorem normalize_keeps_file_group :
    fileCatalog.entries.filter (fun e => !e.isHeader && e.dedupKey == (false, none, "File")) =
        fileEntry :: fileDuplicates ∧
      ∃ kept, fileCatalog.normalize.entries.filter
          (fun e => !e.isHeader && e.dedupKey == (false, none, "File")) = [kept] ∧
        GroupKept fileEntry fileDuplicates kept :=
  have group : fileCatalog.entries.filter
      (fun e => !e.isHeader && e.dedupKey == (false, none, "File")) =
        fileEntry :: fileDuplicates := by
    decide
  ⟨group, Catalog.normalize_keeps_group fileCatalog group⟩

end Localize.Po
