import Localize.Po.Merge
import Mathlib.Data.List.Forall2

/-! # Merging keeps every existing entry

A merge selects, for each identity, one existing entry (`Catalog.selects`: the first live entry
with that identity, or, when there is none, the last obsolete one). An existing entry is
carried (`Catalog.carries`) when it is selected and a live incoming message has its identity.
Every carried entry passes what a translator wrote into each message built from an incoming
message with its identity (`Keeps`), and every other entry comes back as an obsolete entry at
its own place (`Entry.retired`). The index the merge builds gives for each identity the position
`selectFor` picks (`indexOf_eq`), and `selectFor` picks exactly the selected entry
(`selectFor_eq_some_iff`); the merged messages follow the incoming messages one
for one (`Catalog.messages_merge`), and the obsolete entries of the result are the retired
entries that are not carried (`Catalog.obsolete_merge`).
-/

namespace Localize.Po

/-! ## Flags and strings -/

theorem pushMissing_cons (target : List String) (v : String) (values : List String) :
    pushMissing target (v :: values) =
      pushMissing (if target.contains v then target else target ++ [v]) values := rfl

theorem mem_pushMissing {target values : List String} {x : String} :
    x ∈ pushMissing target values ↔ x ∈ target ∨ x ∈ values := by
  induction values generalizing target with
  | nil => simp [pushMissing]
  | cons v values ih =>
    rw [pushMissing_cons, ih]
    by_cases present : target.contains v = true
    · have : v ∈ target := List.contains_iff_mem.mp present
      simp only [present, if_true, List.mem_cons]
      constructor
      · rintro (inside | later)
        · exact .inl inside
        · exact .inr (.inr later)
      · rintro (inside | rfl | later)
        · exact .inl inside
        · exact .inl this
        · exact .inr later
    · simp only [present, Bool.false_eq_true, if_false, List.mem_append, List.mem_cons,
        List.not_mem_nil, or_false]
      exact or_assoc

namespace Entry

theorem addFlag_eq (e : Entry) (flag : String) :
    e.addFlag flag = { e with flags := pushMissing e.flags [flag] } := by
  unfold addFlag hasFlag
  simp only [pushMissing, List.foldl_cons, List.foldl_nil, List.contains_iff_mem]
  by_cases present : flag ∈ e.flags <;> simp only [present, if_true, if_false]

/-- Adding flags one by one only touches the flags, each added unless already there. -/
theorem foldl_addFlag (flags : List String) (e : Entry) :
    flags.foldl addFlag e = { e with flags := pushMissing e.flags flags } := by
  induction flags generalizing e with
  | nil => rfl
  | cons flag flags ih =>
    rw [List.foldl_cons, ih, addFlag_eq]
    simp only [pushMissing_cons]
    rfl

end Entry

/-- Reshaped strings start with the first string. -/
theorem head?_reshape (msgstr : List String) (plural : Bool) {forms : Nat} (some : 0 < forms) :
    (reshape msgstr plural forms).head? = Option.some (msgstr.headD "") := by
  unfold reshape
  cases plural with
  | false => rfl
  | true =>
    cases msgstr with
    | nil =>
      obtain ⟨k, rfl⟩ : ∃ k, forms = k + 1 := ⟨forms - 1, by omega⟩
      rfl
    | cons s rest => rfl

/-- Strings reshaped for a plural entry keep every string. -/
theorem prefix_reshape (msgstr : List String) (forms : Nat) :
    msgstr <+: reshape msgstr true forms :=
  List.prefix_append _ _

/-! ## What a merged entry keeps -/

/-- What the entry `m`, built by a merge from the incoming message `n`, keeps of the existing
entry `e` selected for its identity: it is live with `n`'s identity and plural id, and carries
`e`'s plain comments, every flag of `e`, `e`'s first string, all of `e`'s strings when `n` is
plural, `e`'s previous-message lines when `e` is fuzzy, and the fuzzy flag when `e` had a
translation of the other shape. -/
structure Keeps (e n m : Entry) : Prop where
  live : m.obsolete = false
  key : m.key = n.key
  msgidPlural : m.msgidPlural = n.msgidPlural
  comments : m.comments = e.comments
  flags : ∀ flag ∈ e.flags, flag ∈ m.flags
  firstString : m.msgstr.head? = some e.firstString
  strings : n.isPlural = true → e.msgstr <+: m.msgstr
  previous : m.previous = if e.isFuzzy then e.previous else []
  fuzzy : e.isFilled = true → e.isPlural ≠ n.isPlural → m.isFuzzy = true

theorem keeps_mergeWith (e n : Entry) : Keeps e n (e.mergeWith n) := by
  have forms : 0 < max n.msgstr.length 2 := by omega
  unfold Entry.mergeWith
  by_cases shifted : (e.isPlural != n.isPlural && e.isFilled) = true
  · simp only [shifted, if_true, Entry.addFlag_eq, Entry.foldl_addFlag]
    refine ⟨rfl, rfl, rfl, rfl, ?_, head?_reshape _ _ forms, ?_, rfl, ?_⟩
    · intro flag member
      simp [mem_pushMissing, member]
    · intro plural
      simp only [plural]
      exact prefix_reshape _ _
    · intro _ _
      simp [Entry.isFuzzy, Entry.hasFlag, mem_pushMissing]
  · simp only [shifted, Bool.false_eq_true, if_false, Entry.foldl_addFlag]
    refine ⟨rfl, rfl, rfl, rfl, ?_, head?_reshape _ _ forms, ?_, rfl, ?_⟩
    · intro flag member
      simp [mem_pushMissing, member]
    · intro plural
      simp only [plural]
      exact prefix_reshape _ _
    · intro filled differ
      simp [filled, differ] at shifted

/-! ## The selected entry -/

/-- Whether `f` is a message (an entry other than the header) with identity `k`. -/
def Entry.isMessageFor (k : Option String × String) (f : Entry) : Bool :=
  !f.isHeader && f.key == k

namespace Catalog

/-- Whether position `i` holds the existing entry selected for its identity: the first live
message with that identity or, when the identity has no live message, its last obsolete one. -/
def selects (c : Catalog) (i : Nat) : Bool :=
  match c.entries[i]? with
  | none => false
  | some e =>
    e.isMessageFor e.key &&
      if e.obsolete then
        c.entries.all (fun f => !f.isMessageFor e.key || f.obsolete) &&
          (c.entries.drop (i + 1)).all (!·.isMessageFor e.key)
      else (c.entries.take i).all fun f => !f.isMessageFor e.key || f.obsolete

end Catalog

/-- A list with its positions, split around position `i`. -/
theorem zipIdx_eq_split {α : Type} {l : List α} {i : Nat} {x : α} (h : l[i]? = some x) :
    l.zipIdx = (l.take i).zipIdx ++ (x, i) :: (l.drop (i + 1)).zipIdx (i + 1) := by
  obtain ⟨lt, rfl⟩ := List.getElem?_eq_some_iff.mp h
  have split : l = l.take i ++ l[i] :: l.drop (i + 1) := by
    rw [← List.drop_eq_getElem_cons lt, List.take_append_drop]
  calc l.zipIdx = (l.take i ++ l[i] :: l.drop (i + 1)).zipIdx := by rw [← split]
    _ = _ := by
      rw [List.zipIdx_append, List.zipIdx_cons, List.length_take, Nat.min_eq_left (Nat.le_of_lt lt)]
      simp

theorem all_zipIdx {α : Type} (l : List α) (n : Nat) (p : α → Bool) :
    (l.zipIdx n).all (fun y => p y.1) = l.all p := by
  induction l generalizing n with
  | nil => rfl
  | cons a l ih => simp [List.zipIdx_cons, ih]

/-- The existing entry selected for identity `key` among `olds`, with its position: the first
live message with that identity, or, when there is none, the last obsolete one. -/
def selectFor (olds : List (Entry × Nat)) (key : Option String × String) : Option (Entry × Nat) :=
  let candidates := olds.filter fun (e, _) => !e.isHeader && e.key == key
  match candidates.find? fun (e, _) => !e.obsolete with
  | some found => some found
  | none => candidates.getLast?

theorem selectFor_eq (olds : List (Entry × Nat)) (k : Option String × String) :
    selectFor olds k =
      ((olds.filter fun y => y.1.isMessageFor k).find? fun y => !y.1.obsolete).or
        (olds.filter fun y => y.1.isMessageFor k).getLast? := by
  unfold selectFor
  dsimp only
  split
  · rename_i y found
    have found : ((olds.filter fun y => y.1.isMessageFor k).find? fun y => !y.1.obsolete) =
        some y := found
    rw [found, Option.some_or]
  · rename_i nothing
    have nothing : ((olds.filter fun y => y.1.isMessageFor k).find? fun y => !y.1.obsolete) =
        none := nothing
    rw [nothing, Option.none_or]
    rfl

section Selection

variable {es : List Entry} {k : Option String × String} {f : Entry} {i : Nat}

/-- The messages with identity `k`, with their positions, split around one of them. -/
theorem candidates_split (at_i : es[i]? = some f) (message : f.isMessageFor k = true) :
    es.zipIdx.filter (fun y => y.1.isMessageFor k) =
      (es.take i).zipIdx.filter (fun y => y.1.isMessageFor k) ++
        (f, i) :: ((es.drop (i + 1)).zipIdx (i + 1)).filter (fun y => y.1.isMessageFor k) := by
  rw [zipIdx_eq_split at_i, List.filter_append, List.filter_cons, if_pos message]

theorem snd_lt_of_mem_take {y : Entry × Nat} (member : y ∈ (es.take i).zipIdx) : y.2 < i := by
  have := List.snd_lt_add_of_mem_zipIdx member
  simp only [List.length_take] at this
  omega

/-- Every message of `l` with identity `k` is obsolete exactly when the lookup for live
messages finds none among them. -/
theorem all_obsolete_iff (l : List Entry) (n : Nat) :
    l.all (fun g => !g.isMessageFor k || g.obsolete) = true ↔
      ((l.zipIdx n).filter fun y => y.1.isMessageFor k).find? (fun y => !y.1.obsolete) =
        none := by
  rw [← all_zipIdx _ n, List.all_eq_true, List.find?_eq_none]
  simp [Decidable.imp_iff_not_or, or_assoc]

theorem all_not_message_iff (l : List Entry) (n : Nat) :
    l.all (!·.isMessageFor k) = true ↔ (l.zipIdx n).filter (fun y => y.1.isMessageFor k) = [] := by
  rw [← all_zipIdx _ n, List.all_eq_true, List.filter_eq_nil_iff]
  simp

/-- What the lookup finds is one of the messages with identity `k`. -/
theorem mem_of_selectFor {olds : List (Entry × Nat)} {y : Entry × Nat}
    (found : selectFor olds k = some y) : y ∈ olds.filter fun y => y.1.isMessageFor k := by
  rw [selectFor_eq] at found
  cases live : (olds.filter fun y => y.1.isMessageFor k).find? fun y => !y.1.obsolete with
  | some z =>
    rw [live, Option.some_or, Option.some.injEq] at found
    subst found
    exact List.mem_of_find?_eq_some live
  | none =>
    rw [live, Option.none_or] at found
    exact List.mem_of_getLast? found

/-- The message found at position `i` has no live message with its identity before it: such a
message would have been found first. -/
theorem earlier_obsolete_of_selectFor (at_i : es[i]? = some f) (message : f.isMessageFor k = true)
    (found : selectFor es.zipIdx k = some (f, i)) :
    (es.take i).all (fun g => !g.isMessageFor k || g.obsolete) = true := by
  refine (all_obsolete_iff _ 0).mpr ?_
  rw [selectFor_eq, candidates_split at_i message, List.find?_append] at found
  cases earlier : ((es.take i).zipIdx.filter fun y => y.1.isMessageFor k).find?
      (fun y => !y.1.obsolete) with
  | none => rfl
  | some y =>
    have before := snd_lt_of_mem_take (List.mem_filter.mp (List.mem_of_find?_eq_some earlier)).1
    simp only [earlier, Option.some_or, Option.some.injEq] at found
    subst found
    omega

/-- An obsolete message is found only when no message with its identity is live, and as the
last of them. -/
theorem none_live_of_selectFor (at_i : es[i]? = some f) (message : f.isMessageFor k = true)
    (obsolete : f.obsolete = true) (found : selectFor es.zipIdx k = some (f, i)) :
    es.all (fun g => !g.isMessageFor k || g.obsolete) = true ∧
      (es.drop (i + 1)).all (!·.isMessageFor k) = true := by
  rw [selectFor_eq] at found
  have none_live : (es.zipIdx.filter fun y => y.1.isMessageFor k).find?
      (fun y => !y.1.obsolete) = none := by
    cases live : (es.zipIdx.filter fun y => y.1.isMessageFor k).find?
        (fun y => !y.1.obsolete) with
    | none => rfl
    | some y =>
      have chosen := List.find?_some live
      simp only [live, Option.some_or, Option.some.injEq] at found
      subst found
      simp [obsolete] at chosen
  have later : ((es.drop (i + 1)).zipIdx (i + 1)).filter (fun y => y.1.isMessageFor k) = [] := by
    cases last : (((es.drop (i + 1)).zipIdx (i + 1)).filter
        fun y => y.1.isMessageFor k).getLast? with
    | none => exact List.getLast?_eq_none_iff.mp last
    | some z =>
      have after := List.le_snd_of_mem_zipIdx (List.mem_filter.mp (List.mem_of_getLast? last)).1
      rw [none_live, Option.none_or] at found
      simp only [candidates_split at_i message, List.getLast?_append, List.getLast?_cons, last,
        Option.getD_some, Option.some_or, Option.some.injEq] at found
      subst found
      simp only at after
      omega
  exact ⟨(all_obsolete_iff _ 0).mpr none_live, (all_not_message_iff _ (i + 1)).mpr later⟩

/-- The model's lookup for identity `k` finds exactly the entry selected for it. -/
theorem selectFor_eq_some_iff {c : Catalog} :
    selectFor c.entries.zipIdx k = some (f, i) ↔
      c.entries[i]? = some f ∧ f.key = k ∧ c.selects i = true := by
  obtain ⟨es⟩ := c
  constructor
  · intro found
    obtain ⟨indexed, message⟩ := List.mem_filter.mp (mem_of_selectFor found)
    have at_i : es[i]? = some f := List.mem_zipIdx_iff_getElem?.mp indexed
    obtain ⟨-, keyed⟩ : f.isHeader = false ∧ f.key = k := by
      simpa [Entry.isMessageFor] using message
    refine ⟨at_i, keyed, ?_⟩
    subst keyed
    simp only [Catalog.selects, at_i, message, Bool.true_and]
    cases obsolete : f.obsolete with
    | false => simpa using earlier_obsolete_of_selectFor at_i message found
    | true => simpa using none_live_of_selectFor at_i message obsolete found
  · rintro ⟨at_i, rfl, chosen⟩
    simp only [Catalog.selects, at_i, Bool.and_eq_true] at chosen
    obtain ⟨message, rest⟩ := chosen
    have split := candidates_split at_i message
    rw [selectFor_eq]
    cases obsolete : f.obsolete with
    | false =>
      simp only [obsolete, Bool.false_eq_true, if_false] at rest
      rw [split, List.find?_append, (all_obsolete_iff _ 0).mp rest]
      simp [obsolete]
    | true =>
      simp only [obsolete, if_true, Bool.and_eq_true] at rest
      obtain ⟨none_live, none_later⟩ := rest
      rw [(all_obsolete_iff _ 0).mp none_live, split, (all_not_message_iff _ (i + 1)).mp none_later]
      simp

end Selection

/-! ## The index the merge builds -/

section Index

variable {k : Option String × String}

/-- A lookup in one element that falls back on it gives it. -/
theorem find?_singleton_or {α : Type} (y : α) (p : α → Bool) : ([y].find? p).or (some y) = some y := by
  rw [List.find?_singleton]
  split <;> rfl

/-- One more entry after `olds`: a message with identity `k` is selected when nothing is yet, or
when what is selected is obsolete. -/
theorem selectFor_concat (olds : List (Entry × Nat)) (y : Entry × Nat) :
    selectFor (olds ++ [y]) k =
      if y.1.isMessageFor k then
        match selectFor olds k with
        | some z => if z.1.obsolete then some y else some z
        | none => some y
      else selectFor olds k := by
  rw [selectFor_eq, selectFor_eq, List.filter_append, List.filter_singleton]
  cases message : y.1.isMessageFor k with
  | false => simp
  | true =>
    simp only [cond_true, if_true, List.find?_append, List.getLast?_concat]
    cases live : (olds.filter fun y => y.1.isMessageFor k).find? fun y => !y.1.obsolete with
    | some z =>
      have chosen : z.1.obsolete = false := by simpa using List.find?_some live
      simp only [Option.some_or, chosen, Bool.false_eq_true, if_false]
    | none =>
      -- nothing is live among the candidates so far, so what is selected is obsolete
      have none_live := List.find?_eq_none.mp live
      rw [Option.none_or, Option.none_or, find?_singleton_or]
      cases last : (olds.filter fun y => y.1.isMessageFor k).getLast? with
      | none => rfl
      | some z =>
        have obsolete : z.1.obsolete = true := by
          simpa using none_live z (List.mem_of_getLast? last)
        simp only [obsolete, if_true]

/-- One step of indexing keeps the index answering, for every identity, the position selected
among the entries seen. -/
theorem indexStep_selects {es : List Entry} {lookup : Lookup} {olds : List (Entry × Nat)}
    (y : Entry × Nat) (valid : ∀ z ∈ olds, es[z.2]? = some z.1)
    (indexes : ∀ k, lookup k = (selectFor olds k).map (·.2)) :
    indexStep es lookup y k = (selectFor (olds ++ [y]) k).map (·.2) := by
  obtain ⟨e, i⟩ := y
  rw [selectFor_concat]
  by_cases message : e.isMessageFor k
  · -- the entry is a message with identity `k`
    obtain ⟨header, rfl⟩ : e.isHeader = false ∧ e.key = k := by
      simpa [Entry.isMessageFor] using message
    cases selected : selectFor olds e.key with
    | none => simp [indexStep, header, indexes, selected, Lookup.insert, message]
    | some z =>
      have at_z := valid z (List.mem_filter.mp (mem_of_selectFor selected)).1
      cases obsolete : z.1.obsolete <;>
        simp [indexStep, header, indexes, selected, at_z, obsolete, Lookup.insert, message]
  · -- every branch of the step leaves identity `k` as it was
    have untouched : indexStep es lookup (e, i) k = lookup k := by
      by_cases header : e.isHeader
      · simp [indexStep, header]
      · have other : k ≠ e.key := fun same => message (by simp [Entry.isMessageFor, header, same])
        simp only [indexStep, header, Bool.false_eq_true, if_false]
        split <;> simp [Lookup.insert, other]
    simp [untouched, indexes, message]

/-- Indexing the entries `rest` after `olds` answers, for every identity, the position selected
among them all. -/
theorem foldl_indexStep (es : List Entry) :
    ∀ (rest olds : List (Entry × Nat)) (lookup : Lookup),
      (∀ z ∈ olds ++ rest, es[z.2]? = some z.1) →
      (∀ k, lookup k = (selectFor olds k).map (·.2)) →
      rest.foldl (indexStep es) lookup k = (selectFor (olds ++ rest) k).map (·.2)
  | [], olds, lookup, _, indexes => by simpa using indexes k
  | y :: rest, olds, lookup, valid, indexes => by
    have stepped : ∀ k, indexStep es lookup y k = (selectFor (olds ++ [y]) k).map (·.2) :=
      fun _ => indexStep_selects y (fun z member => valid z (by simp [member])) indexes
    simpa using foldl_indexStep es rest (olds ++ [y]) _ (by simpa using valid) stepped

/-- The merge's index gives, for every identity, the position of the entry selected for it. -/
theorem indexOf_eq (es : List Entry) (k : Option String × String) :
    indexOf es k = (selectFor es.zipIdx k).map (·.2) :=
  foldl_indexStep es es.zipIdx [] _
    (fun z member => List.mem_zipIdx_iff_getElem?.mp (by simpa using member)) (fun _ => rfl)

theorem lookupEntry_indexOf (es : List Entry) (k : Option String × String) :
    lookupEntry es (indexOf es) k = selectFor es.zipIdx k := by
  rw [lookupEntry, indexOf_eq]
  cases selected : selectFor es.zipIdx k with
  | none => rfl
  | some z =>
    have at_z := List.mem_zipIdx_iff_getElem?.mp (List.mem_filter.mp (mem_of_selectFor selected)).1
    simp [at_z]

end Index

/-! ## The shape of a merge -/

namespace Catalog

/-- Whether the existing entry at position `i` is carried into a merge with `incoming`: it is
selected for its identity and a live incoming message has that identity. -/
def carries (c incoming : Catalog) (i : Nat) : Bool :=
  match c.entries[i]? with
  | some e => c.selects i && incoming.messages.any (·.key == e.key)
  | none => false

end Catalog

/-- An existing entry as a merge keeps it when it is not carried: obsolete, without
references. -/
def Entry.retired (e : Entry) : Entry := { e with obsolete := true, references := [] }

theorem Entry.isHeader_eq_of_key {m n : Entry} (key : m.key = n.key) (live : m.obsolete = n.obsolete) :
    m.isHeader = n.isHeader := by
  simp only [Entry.key, Prod.mk.injEq] at key
  simp [Entry.isHeader, key.1, key.2, live]

theorem Entry.live_of_isHeader {h : Entry} (header : h.isHeader = true) : h.obsolete = false := by
  simp only [Entry.isHeader, Bool.and_eq_true, Bool.not_eq_eq_eq_not, Bool.not_true] at header
  exact header.2

theorem Catalog.isHeader_of_header? {c : Catalog} {h : Entry} (found : c.header? = some h) :
    h.isHeader = true :=
  List.find?_some found

/-- The header a merge writes is a header. -/
theorem isHeader_of_mem_mergedHeader {old new : Option Entry} {h : Entry}
    (olds : ∀ o ∈ old, o.isHeader = true) (news : ∀ n ∈ new, n.isHeader = true)
    (member : h ∈ (mergedHeader old new).toList) : h.isHeader = true := by
  unfold mergedHeader at member
  cases old with
  | none => exact news h (by simpa using member)
  | some o =>
    have header := olds o rfl
    dsimp only at member
    split at member
    · simp only [Option.toList_some, List.mem_singleton] at member
      subst member
      simpa [Entry.isHeader] using header
    · simp only [Option.toList_some, List.mem_singleton] at member
      subst member
      exact header

/-- The entry a merge builds from the incoming message `n`. -/
def Catalog.mergedFrom (E : Catalog) (n : Entry) : Entry :=
  match selectFor E.entries.zipIdx n.key with
  | some (old, _) => old.mergeWith n
  | none => n

theorem Catalog.merge_entries (E I : Catalog) :
    (E.merge I).entries = (mergedHeader E.header? I.header?).toList ++
      I.messages.map E.mergedFrom ++
        E.entries.zipIdx.filterMap fun y =>
          if y.1.isHeader || (I.messages.filterMap fun n =>
              (selectFor E.entries.zipIdx n.key).map (·.2)).contains y.2 then none
          else some y.1.retired := by
  simp only [Catalog.merge, lookupEntry_indexOf, indexOf_eq]
  rfl

theorem Catalog.mergedFrom_eq {E : Catalog} {n e : Entry} {i : Nat}
    (at_i : E.entries[i]? = some e) (chosen : E.selects i = true) (key : e.key = n.key) :
    E.mergedFrom n = e.mergeWith n := by
  have found : selectFor E.entries.zipIdx n.key = some (e, i) :=
    selectFor_eq_some_iff.mpr ⟨at_i, key, chosen⟩
  simp [Catalog.mergedFrom, found]

/-- What a merge builds from an incoming message is a live message. -/
theorem Catalog.mergedFrom_message (E : Catalog) {n : Entry} (header : n.isHeader = false)
    (live : n.obsolete = false) :
    (E.mergedFrom n).isHeader = false ∧ (E.mergedFrom n).obsolete = false := by
  unfold Catalog.mergedFrom
  split
  · rename_i old _ _
    have keeps := keeps_mergeWith old n
    exact ⟨(Entry.isHeader_eq_of_key keeps.key (keeps.live.trans live.symm)).trans header,
      keeps.live⟩
  · exact ⟨header, live⟩

section Retiring

variable {olds : List (Entry × Nat)} {dropped : Entry × Nat → Bool}

theorem filterMap_retiring :
    olds.filterMap (fun y => if dropped y then none else some y.1.retired) =
      (olds.filter fun y => !dropped y).map (·.1.retired) := by
  induction olds with
  | nil => rfl
  | cons y olds ih => cases drop : dropped y <;> simp [drop, ih]

theorem obsolete_of_mem_retiring {r : Entry}
    (member : r ∈ olds.filterMap fun y => if dropped y then none else some y.1.retired) :
    r.obsolete = true := by
  rw [filterMap_retiring] at member
  obtain ⟨y, -, rfl⟩ := List.mem_map.mp member
  rfl

end Retiring

theorem Catalog.isHeader_of_mem_merged {E I : Catalog} {h : Entry}
    (member : h ∈ (mergedHeader E.header? I.header?).toList) : h.isHeader = true :=
  isHeader_of_mem_mergedHeader (fun _ found => Catalog.isHeader_of_header? found)
    (fun _ found => Catalog.isHeader_of_header? found) member

theorem Catalog.message_of_mem_built {E I : Catalog} {m : Entry}
    (member : m ∈ I.messages.map E.mergedFrom) : m.isHeader = false ∧ m.obsolete = false := by
  obtain ⟨n, incoming, rfl⟩ := List.mem_map.mp member
  have ⟨header, live⟩ : n.isHeader = false ∧ n.obsolete = false := by
    simpa [Catalog.messages] using (List.mem_filter.mp incoming).2
  exact E.mergedFrom_message header live

/-- The messages of a merge are the entries built from the incoming messages, one for one. -/
theorem Catalog.messages_merge (E I : Catalog) :
    (E.merge I).messages = I.messages.map E.mergedFrom := by
  rw [Catalog.messages, Catalog.merge_entries, List.filter_append, List.filter_append,
    List.filter_eq_nil_iff.mpr, List.filter_eq_self.mpr, List.filter_eq_nil_iff.mpr,
    List.nil_append, List.append_nil]
  · intro r member
    simp [obsolete_of_mem_retiring member]
  · intro m member
    obtain ⟨header, live⟩ := Catalog.message_of_mem_built member
    simp [header, live]
  · intro h member
    simp [Catalog.isHeader_of_mem_merged member]

/-- A merge uses exactly the positions of the entries it carries. -/
theorem Catalog.contains_used (E I : Catalog) {e : Entry} {i : Nat}
    (at_i : E.entries[i]? = some e) :
    (I.messages.filterMap fun n => (selectFor E.entries.zipIdx n.key).map (·.2)).contains i =
      E.carries I i := by
  apply Bool.eq_iff_iff.mpr
  simp only [List.contains_iff_mem, List.mem_filterMap, Option.map_eq_some_iff, Catalog.carries,
    at_i, Bool.and_eq_true, List.any_eq_true, beq_iff_eq]
  constructor
  · rintro ⟨n, incoming, ⟨f, j⟩, found, rfl⟩
    obtain ⟨at_j, key, chosen⟩ := selectFor_eq_some_iff.mp found
    rw [at_i] at at_j
    cases at_j
    exact ⟨chosen, n, incoming, key.symm⟩
  · rintro ⟨chosen, n, incoming, key⟩
    exact ⟨n, incoming, (e, i), selectFor_eq_some_iff.mpr ⟨at_i, key.symm, chosen⟩, rfl⟩

/-- The entries a merge retires are the existing entries other than the header that it does not
carry, in their order. -/
theorem Catalog.leftovers_merge (E I : Catalog) :
    (E.entries.zipIdx.filterMap fun y =>
      if y.1.isHeader || (I.messages.filterMap fun n =>
          (selectFor E.entries.zipIdx n.key).map (·.2)).contains y.2 then none
      else some y.1.retired) =
      (E.entries.zipIdx.filter fun y => !y.1.isHeader && !E.carries I y.2).map (·.1.retired) := by
  rw [filterMap_retiring]
  congr 1
  apply List.filter_congr
  intro y member
  rw [E.contains_used I (List.mem_zipIdx_iff_getElem?.mp member)]
  simp

/-- The obsolete entries of a merge are the existing entries it does not carry, retired, in
their order. -/
theorem Catalog.obsolete_merge (E I : Catalog) :
    (E.merge I).entries.filter (·.obsolete) =
      (E.entries.zipIdx.filter fun y => !y.1.isHeader && !E.carries I y.2).map (·.1.retired) := by
  rw [Catalog.merge_entries, List.filter_append, List.filter_append,
    List.filter_eq_nil_iff.mpr, List.filter_eq_nil_iff.mpr, List.filter_eq_self.mpr,
    List.nil_append, List.nil_append, Catalog.leftovers_merge]
  · intro r member
    exact obsolete_of_mem_retiring member
  · intro m member
    simp [(Catalog.message_of_mem_built member).2]
  · intro h member
    simp [Entry.live_of_isHeader (Catalog.isHeader_of_mem_merged member)]

/-! ## Merging loses nothing -/

/-- A merge keeps every existing entry, in one of two ways. The messages of the merge follow the
incoming messages one for one, and the one built from a message with the identity of an existing
entry selected for it keeps what `Keeps` lists of that entry. The obsolete entries of the merge
are the existing entries (the header aside) that it does not carry, retired, each once and in
their order; so a carried entry is kept only in the messages and every other one only among the
obsolete entries. -/
theorem merge_keeps_existing (E I : Catalog) :
    List.Forall₂ (fun n m => ∀ i e, E.entries[i]? = some e → E.selects i = true →
        e.key = n.key → Keeps e n m) I.messages (E.merge I).messages ∧
      (E.merge I).entries.filter (·.obsolete) =
        (E.entries.zipIdx.filter fun y => !y.1.isHeader && !E.carries I y.2).map (·.1.retired) := by
  refine ⟨?_, E.obsolete_merge I⟩
  rw [E.messages_merge I, List.forall₂_map_right_iff, List.forall₂_same]
  intro n _ i e at_i chosen key
  rw [Catalog.mergedFrom_eq at_i chosen key]
  exact keeps_mergeWith e n

/-! ## The parts of a merge -/

/-- What a message built by a merge takes from the incoming message it is built from: it is
live, with that message's context, id, plural id, references and extracted comments. -/
structure Entry.BuiltFrom (m n : Entry) : Prop where
  live : m.obsolete = false
  msgctxt : m.msgctxt = n.msgctxt
  msgid : m.msgid = n.msgid
  msgidPlural : m.msgidPlural = n.msgidPlural
  references : m.references = n.references
  extracted : m.extracted = n.extracted

theorem Entry.builtFrom_mergeWith (e n : Entry) : (e.mergeWith n).BuiltFrom n := by
  unfold Entry.mergeWith
  -- only the flags, the comments, the previous lines and the strings change
  by_cases shifted : (e.isPlural != n.isPlural && e.isFilled) = true
  · simp only [shifted, if_true, Entry.addFlag_eq, Entry.foldl_addFlag]
    exact ⟨rfl, rfl, rfl, rfl, rfl, rfl⟩
  · simp only [shifted, Bool.false_eq_true, if_false, Entry.foldl_addFlag]
    exact ⟨rfl, rfl, rfl, rfl, rfl, rfl⟩

theorem Catalog.builtFrom_mergedFrom (E : Catalog) {n : Entry} (live : n.obsolete = false) :
    (E.mergedFrom n).BuiltFrom n := by
  unfold Catalog.mergedFrom
  split
  · exact Entry.builtFrom_mergeWith _ n
  · exact ⟨live, rfl, rfl, rfl, rfl, rfl⟩

/-- **A merge is its header, one message per live incoming message, then the retired existing
entries, and nothing else.** The header is the first existing header, its first string given
the incoming creation date when the first incoming header has one, or else the first incoming
header. Each live incoming message, in order, gives one live message with its identity, plural
id, references and extracted comments. Then come the existing entries other than the header that
the merge does not carry, in their order, each obsolete and without references. Further existing
headers and obsolete incoming entries are left out. -/
theorem Catalog.merge_layout (E I : Catalog) :
    ∃ header built,
      (E.merge I).entries = header.toList ++ built ++
        (E.entries.zipIdx.filter fun y => !y.1.isHeader && !E.carries I y.2).map (·.1.retired) ∧
      (∀ h, E.header? = some h → header = some ((I.header?.bind fun n =>
          headerValue n.firstString creationField).elim h fun date =>
            { h with msgstr := [setHeaderField h.firstString creationField date] })) ∧
      (E.header? = none → header = I.header?) ∧
      List.Forall₂ (fun n m => m.BuiltFrom n) I.messages built := by
  refine ⟨mergedHeader E.header? I.header?, I.messages.map E.mergedFrom, ?_, ?_, ?_, ?_⟩
  · rw [Catalog.merge_entries, Catalog.leftovers_merge]
  · intro h found
    rw [found]
    cases created : I.header?.bind fun n => headerValue n.firstString creationField <;>
      simp [mergedHeader, created]
  · intro missing
    rw [missing]
    rfl
  · rw [List.forall₂_map_right_iff, List.forall₂_same]
    intro n message
    obtain ⟨-, live⟩ : n.isHeader = false ∧ n.obsolete = false := by
      simpa using (List.mem_filter.mp message).2
    exact E.builtFrom_mergedFrom live

end Localize.Po
