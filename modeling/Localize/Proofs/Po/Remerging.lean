import Localize.Proofs.Po.Merging
import Localize.Proofs.Po.RoundTrip
import Localize.Proofs.Po.HeaderFields

/-! # Merging the same catalog again changes nothing

A merge builds each message from the incoming one and the existing entry selected for its
identity (`Entry.mergeWith`). Building it again from what it built gives the same entry
(`Entry.mergeWith_mergeWith`): its flags already hold the incoming ones, its strings already
have the incoming shape, and it keeps previous-message lines only when fuzzy. An incoming
message is its own merge when its strings have its shape and it has previous-message lines
only when fuzzy (`Entry.mergeWith_self`).

A merge with `I` lays out its result as its header, one message built from each live incoming
message, then retired entries (`Catalog.LaidOut`), and so does the catalog read back from its
text (`Catalog.LaidOut.asWritten`). Such a catalog is given back by a merge with `I`
(`Catalog.merge_eq_self`), as long as the incoming identities are distinct, every built message
is its own merge, and the header keeps its creation date. So for an incoming catalog as a write
makes it (`Catalog.Incoming`), merging it into what an earlier merge with it wrote changes
nothing (`Catalog.merge_asWritten_merge`), and neither does merging it into itself
(`Catalog.Incoming.merge_self`).
-/

namespace Localize.Po

/-! ## Flags and strings -/

theorem pushMissing_append (target xs ys : List String) :
    pushMissing target (xs ++ ys) = pushMissing (pushMissing target xs) ys :=
  List.foldl_append

theorem pushMissing_of_subset {target values : List String} (present : ∀ v ∈ values, v ∈ target) :
    pushMissing target values = target := by
  induction values with
  | nil => rfl
  | cons v values ih =>
    rw [pushMissing_cons, if_pos (List.contains_iff_mem.mpr (present v List.mem_cons_self))]
    exact ih fun w member => present w (List.mem_cons_of_mem v member)

/-- Pushing what pushing added adds nothing. -/
theorem pushMissing_pushMissing (target values : List String) :
    pushMissing target (pushMissing target values) = pushMissing target values := by
  induction values using List.reverseRecOn with
  | nil => exact pushMissing_of_subset fun v member => member
  | append_singleton values v ih =>
    rw [pushMissing_append]
    by_cases present : v ∈ pushMissing target values
    · have same : pushMissing (pushMissing target values) [v] = pushMissing target values :=
        pushMissing_of_subset (by simpa using present)
      rw [same]
      exact ih
    · have added : pushMissing (pushMissing target values) [v] = pushMissing target values ++ [v] := by
        have absent : (pushMissing target values).contains v = false := by simpa using present
        rw [pushMissing_cons, absent]
        rfl
      rw [added, pushMissing_append, ih, added]

theorem reshape_reshape (msgstr : List String) (plural : Bool) (forms : Nat) :
    reshape (reshape msgstr plural forms) plural forms = reshape msgstr plural forms := by
  cases plural with
  | false => rfl
  | true =>
    have padded : forms - (msgstr.length + (forms - msgstr.length)) = 0 := by omega
    simp [reshape, padded]

/-! ## Building a message again -/

/-- A merged entry written out: the incoming entry, live, with the existing entry's comments, the
flags of both (and the fuzzy flag when the existing translation had the other shape), the
existing previous-message lines when it was fuzzy, and the existing strings in the incoming
shape. -/
theorem Entry.mergeWith_eq (old new : Entry) :
    old.mergeWith new = { new with
      obsolete := false
      comments := old.comments
      flags := pushMissing new.flags
        (old.flags ++ if old.isPlural != new.isPlural && old.isFilled then ["fuzzy"] else [])
      previous := if old.isFuzzy then old.previous else []
      msgstr := reshape old.msgstr new.isPlural (max new.msgstr.length 2) } := by
  unfold Entry.mergeWith
  by_cases shifted : (old.isPlural != new.isPlural && old.isFilled) = true
  · simp only [shifted, if_true, Entry.addFlag_eq, Entry.foldl_addFlag, pushMissing_append]
  · simp only [shifted, Bool.false_eq_true, if_false, Entry.foldl_addFlag, List.append_nil]

/-- Building a message again from the entry built for it gives that entry. -/
theorem Entry.mergeWith_mergeWith (old new : Entry) :
    (old.mergeWith new).mergeWith new = old.mergeWith new := by
  have keeps := keeps_mergeWith old new
  have samePlural : (old.mergeWith new).isPlural = new.isPlural := by
    simp [Entry.isPlural, keeps.msgidPlural]
  have flags : pushMissing new.flags (old.mergeWith new).flags = (old.mergeWith new).flags := by
    rw [Entry.mergeWith_eq]
    exact pushMissing_pushMissing _ _
  -- an existing fuzzy entry passes its flag on, so its previous-message lines stay
  have previous : (if (old.mergeWith new).isFuzzy then (old.mergeWith new).previous else []) =
      (old.mergeWith new).previous := by
    rw [keeps.previous]
    by_cases fuzzy : old.isFuzzy = true
    · have kept : (old.mergeWith new).isFuzzy = true := by
        have marked := keeps.flags "fuzzy" (by simpa [Entry.isFuzzy, Entry.hasFlag] using fuzzy)
        simpa [Entry.isFuzzy, Entry.hasFlag] using marked
      simp [kept, fuzzy]
    · simp [fuzzy]
  have strings : reshape (old.mergeWith new).msgstr new.isPlural (max new.msgstr.length 2) =
      (old.mergeWith new).msgstr := by
    rw [Entry.mergeWith_eq]
    exact reshape_reshape _ _ _
  conv_lhs => rw [Entry.mergeWith_eq]
  rw [samePlural, bne_self_eq_false, Bool.false_and, if_neg Bool.false_ne_true, List.append_nil,
    flags, previous, strings, keeps.comments]
  conv_rhs => rw [Entry.mergeWith_eq]
  simp only [Entry.mergeWith_eq]

/-- An incoming message is its own merge when it is live, its strings have its shape, and it
has previous-message lines only when fuzzy. -/
theorem Entry.mergeWith_self {n : Entry} (live : n.obsolete = false)
    (previous : n.isFuzzy = false → n.previous = [])
    (shaped : reshape n.msgstr n.isPlural (max n.msgstr.length 2) = n.msgstr) :
    n.mergeWith n = n := by
  have flags : pushMissing n.flags n.flags = n.flags := pushMissing_of_subset fun v member => member
  have kept : (if n.isFuzzy then n.previous else []) = n.previous := by
    cases fuzzy : n.isFuzzy
    · simp [previous fuzzy]
    · rfl
  rw [Entry.mergeWith_eq, bne_self_eq_false, Bool.false_and, if_neg Bool.false_ne_true,
    List.append_nil, flags, kept, shaped, ← live]

/-! ## Writing what a merge built -/

/-- A merged message is written as it is: it is live, and a singular one has one string. -/
theorem Entry.asWritten_mergeWith (old new : Entry) : (old.mergeWith new).asWritten = old.mergeWith new := by
  have references : (if (old.mergeWith new).obsolete then [] else (old.mergeWith new).references) =
      (old.mergeWith new).references := by
    simp [(keeps_mergeWith old new).live]
  have strings : (if (old.mergeWith new).isPlural then (old.mergeWith new).msgstr
      else [(old.mergeWith new).firstString]) = (old.mergeWith new).msgstr := by
    have plural : (old.mergeWith new).isPlural = new.isPlural := by
      simp [Entry.isPlural, (keeps_mergeWith old new).msgidPlural]
    rw [plural]
    cases singular : new.isPlural
    · simp [Entry.mergeWith_eq, reshape, singular, Entry.firstString]
    · rfl
  unfold Entry.asWritten
  rw [references, strings]

/-- An entry retired already is written retired. -/
theorem Entry.retired_asWritten {l : Entry} (retired : l.retired = l) :
    l.asWritten.retired = l.asWritten := by
  have obsolete : l.obsolete = true := by rw [← retired]; rfl
  simp [Entry.retired, Entry.asWritten, obsolete]

/-- A catalog where only the first entry may be a header is written in its own order. -/
theorem Catalog.written_eq_of_drop {c : Catalog} (later : ∀ e ∈ c.entries.drop 1, e.isHeader = false) :
    c.written = c.entries := by
  obtain ⟨entries⟩ := c
  cases entries with
  | nil => rfl
  | cons first rest =>
    have others : rest.filter Entry.isHeader = [] :=
      List.filter_eq_nil_iff.mpr fun e member => by simp [later e (by simpa using member)]
    have kept : rest.filter (!·.isHeader) = rest :=
      List.filter_eq_self.mpr fun e member => by simp [later e (by simpa using member)]
    cases header : first.isHeader <;> simp [Catalog.written, header, others, kept]

/-! ## Catalogs laid out as merges -/

/-- How a merge with `I` lays out a catalog: the header `H`, then the message `g n` built from
each live incoming message `n`, a live message with `n`'s identity, then entries `ls` retired
already. -/
structure Catalog.LaidOut (C I : Catalog) (H : Option Entry) (g : Entry → Entry)
    (ls : List Entry) : Prop where
  entries : C.entries = H.toList ++ I.messages.map g ++ ls
  header : ∀ h ∈ H, h.isHeader = true
  key : ∀ n ∈ I.messages, (g n).key = n.key
  message : ∀ n ∈ I.messages, (g n).isHeader = false ∧ (g n).obsolete = false
  retired : ∀ l ∈ ls, l.retired = l

theorem Entry.obsolete_of_retired {l : Entry} (retired : l.retired = l) : l.obsolete = true := by
  rw [← retired]
  rfl

namespace Catalog.LaidOut

variable {C I : Catalog} {H : Option Entry} {g : Entry → Entry} {ls : List Entry}

/-- After the header, no entry is a header. -/
theorem isHeader_of_mem_rest (laid : C.LaidOut I H g ls) {e : Entry}
    (member : e ∈ I.messages.map g ++ ls) : e.isHeader = false := by
  rcases List.mem_append.mp member with built | old
  · obtain ⟨n, incoming, rfl⟩ := List.mem_map.mp built
    exact (laid.message n incoming).1
  · simp [Entry.isHeader, Entry.obsolete_of_retired (laid.retired e old)]

theorem header?_eq (laid : C.LaidOut I H g ls) : C.header? = H := by
  have rest : (I.messages.map g ++ ls).find? Entry.isHeader = none :=
    List.find?_eq_none.mpr fun e member => by simp [laid.isHeader_of_mem_rest member]
  rw [Catalog.header?, laid.entries, List.append_assoc, List.find?_append, rest]
  cases H with
  | none => rfl
  | some h => simp [laid.header h rfl]

theorem written_eq (laid : C.LaidOut I H g ls) : C.written = C.entries := by
  refine Catalog.written_eq_of_drop fun e member => laid.isHeader_of_mem_rest ?_
  rw [laid.entries, List.append_assoc] at member
  cases H with
  | none => exact (List.drop_sublist 1 _).subset member
  | some h => simpa using member

/-- The message built from the incoming message at position `j` stands at its place after the
header, and is the entry selected for its identity: no live message with that identity comes
before it. -/
theorem selects (laid : C.LaidOut I H g ls) (distinct : (I.messages.map Entry.key).Nodup)
    {j : Nat} (bound : j < I.messages.length) :
    C.entries[H.toList.length + j]? = some (g I.messages[j]) ∧
      C.selects (H.toList.length + j) = true := by
  have split : I.messages = I.messages.take j ++ I.messages[j] :: I.messages.drop (j + 1) := by
    rw [← List.drop_eq_getElem_cons bound, List.take_append_drop]
  have fresh : I.messages[j].key ∉ (I.messages.take j).map Entry.key := by
    have nodup := distinct
    rw [split, List.map_append, List.map_cons, List.nodup_append] at nodup
    exact fun inside => nodup.2.2 _ inside _ List.mem_cons_self rfl
  have at_j : C.entries[H.toList.length + j]? = some (g I.messages[j]) := by
    rw [laid.entries, List.append_assoc, List.getElem?_append_right (by omega),
      Nat.add_sub_cancel_left, List.getElem?_append_left (by simpa using bound), List.getElem?_map,
      List.getElem?_eq_getElem bound]
    rfl
  refine ⟨at_j, ?_⟩
  have before : C.entries.take (H.toList.length + j) = H.toList ++ (I.messages.take j).map g := by
    rw [laid.entries, List.append_assoc, List.take_append, List.take_of_length_le (by omega),
      Nat.add_sub_cancel_left, List.take_append_of_le_length (by simpa using bound.le),
      List.map_take]
  have message := laid.message _ (List.getElem_mem bound)
  simp only [Catalog.selects, at_j, Entry.isMessageFor, message.1, message.2, Bool.not_false,
    beq_self_eq_true, Bool.and_self, Bool.false_eq_true, if_false, Bool.true_and, before,
    List.all_append, Bool.and_eq_true, List.all_eq_true]
  constructor
  · intro h member
    simp [laid.header h (by simpa using member)]
  · intro f member
    obtain ⟨m, earlier, rfl⟩ := List.mem_map.mp member
    have other : (g m).key ≠ (g I.messages[j]).key := by
      rw [laid.key m ((List.take_sublist j _).subset earlier),
        laid.key _ (List.getElem_mem bound)]
      exact fun same => fresh (same ▸ List.mem_map_of_mem earlier)
    simp [other]

/-- Each incoming message is built again into the message built for it. -/
theorem mergedFrom_eq (laid : C.LaidOut I H g ls) (distinct : (I.messages.map Entry.key).Nodup)
    (settled : ∀ n ∈ I.messages, (g n).mergeWith n = g n) {n : Entry} (incoming : n ∈ I.messages) :
    C.mergedFrom n = g n := by
  obtain ⟨j, bound, rfl⟩ := List.getElem_of_mem incoming
  obtain ⟨at_j, chosen⟩ := laid.selects distinct bound
  rw [Catalog.mergedFrom_eq at_j chosen (laid.key _ incoming), settled _ incoming]

/-- A merge with `I` carries every message built from an incoming message. -/
theorem carries_built (laid : C.LaidOut I H g ls) (distinct : (I.messages.map Entry.key).Nodup)
    {j : Nat} (bound : j < I.messages.length) : C.carries I (H.toList.length + j) = true := by
  obtain ⟨at_j, chosen⟩ := laid.selects distinct bound
  simp only [Catalog.carries, at_j, chosen, Bool.true_and, List.any_eq_true, beq_iff_eq]
  exact ⟨I.messages[j], List.getElem_mem bound, (laid.key _ (List.getElem_mem bound)).symm⟩

/-- A merge with `I` carries no entry retired already: a live built message has its identity,
or no incoming message does. -/
theorem not_carries_retired (laid : C.LaidOut I H g ls) {l : Entry} {i : Nat} (old : l ∈ ls)
    (in_C : C.entries[i]? = some l) : C.carries I i = false := by
  have obsolete := Entry.obsolete_of_retired (laid.retired l old)
  simp only [Catalog.carries, in_C, Bool.and_eq_false_iff]
  by_cases named : ∃ n ∈ I.messages, n.key = l.key
  · obtain ⟨n, incoming, same⟩ := named
    left
    have built : g n ∈ C.entries := by
      rw [laid.entries]
      exact List.mem_append_left _ (List.mem_append_right _ (List.mem_map_of_mem incoming))
    have message := laid.message n incoming
    simp only [Catalog.selects, in_C, obsolete, if_true, Bool.and_eq_false_iff]
    right
    left
    rw [List.all_eq_false]
    refine ⟨g n, built, ?_⟩
    simp [Entry.isMessageFor, message.1, message.2, laid.key n incoming, same]
  · right
    simpa [List.any_eq_false] using fun n incoming same => named ⟨n, incoming, same⟩

/-- The entries a merge retires are the ones retired already: the header is left out, every
built message is carried, and no retired entry is. -/
theorem leftovers_eq (laid : C.LaidOut I H g ls) (distinct : (I.messages.map Entry.key).Nodup) :
    (C.entries.zipIdx.filterMap fun y =>
      if y.1.isHeader || (I.messages.filterMap fun n =>
          (selectFor C.entries.zipIdx n.key).map (·.2)).contains y.2 then none
      else some y.1.retired) = ls := by
  rw [Catalog.leftovers_merge]
  have whole : C.entries = (H.toList ++ I.messages.map g) ++ ls := laid.entries
  have front : ∀ y ∈ (H.toList ++ I.messages.map g).zipIdx,
      (!y.1.isHeader && !C.carries I y.2) = false := by
    rintro ⟨f, i⟩ member
    have at_i : (H.toList ++ I.messages.map g)[i]? = some f := List.mem_zipIdx_iff_getElem?.mp member
    by_cases header : i < H.toList.length
    · rw [List.getElem?_append_left header] at at_i
      simp [laid.header f (by simpa using List.mem_of_getElem? at_i)]
    · obtain ⟨j, rfl⟩ : ∃ j, i = H.toList.length + j := ⟨i - H.toList.length, by omega⟩
      have bound : j < I.messages.length := by
        simpa using (List.getElem?_eq_some_iff.mp at_i).1
      simp [laid.carries_built distinct bound]
  have back : ∀ y ∈ ls.zipIdx (H.toList ++ I.messages.map g).length,
      (!y.1.isHeader && !C.carries I y.2) = true := by
    rintro ⟨l, i⟩ member
    have old : l ∈ ls := List.fst_mem_of_mem_zipIdx member
    have in_C : C.entries[i]? = some l := by
      rw [whole, List.getElem?_append_right (List.le_snd_of_mem_zipIdx member)]
      exact (List.mem_zipIdx_iff_le_and_getElem?_sub.mp member).2
    simp [Entry.isHeader, Entry.obsolete_of_retired (laid.retired l old),
      laid.not_carries_retired old in_C]
  have split : C.entries.zipIdx = (H.toList ++ I.messages.map g).zipIdx ++
      ls.zipIdx (H.toList ++ I.messages.map g).length := by
    rw [whole, List.zipIdx_append, Nat.zero_add]
  have retiring : (fun y : Entry × Nat => y.1.retired) = Entry.retired ∘ Prod.fst := rfl
  rw [split, List.filter_append,
    List.filter_eq_nil_iff.mpr (fun y member => by simp only [front y member, Bool.false_eq_true,
      not_false_eq_true]),
    List.filter_eq_self.mpr back, List.nil_append, retiring, ← List.map_map, List.zipIdx_map_fst]
  exact (List.map_congr_left laid.retired).trans (List.map_id ls)

/-- **A catalog laid out as a merge with `I` is what a merge with `I` gives back**, when the
incoming identities are distinct, every built message is its own merge with its incoming
message, and merging the incoming header keeps the header. -/
theorem merge_eq_self (laid : C.LaidOut I H g ls) (distinct : (I.messages.map Entry.key).Nodup)
    (headerKept : mergedHeader H I.header? = H)
    (settled : ∀ n ∈ I.messages, (g n).mergeWith n = g n) : C.merge I = C := by
  have entries := Catalog.merge_entries C I
  rw [laid.header?_eq, headerKept,
    List.map_congr_left fun n incoming => laid.mergedFrom_eq distinct settled incoming,
    laid.leftovers_eq distinct, ← laid.entries] at entries
  exact congrArg Catalog.mk entries

/-- The catalog read back from a catalog laid out as a merge is laid out the same way, each entry
as the printer writes it. -/
theorem asWritten (laid : C.LaidOut I H g ls) :
    C.asWritten.LaidOut I (H.map Entry.asWritten) (Entry.asWritten ∘ g)
      (ls.map Entry.asWritten) where
  entries := by
    rw [Catalog.asWritten, laid.written_eq, laid.entries, List.map_append, List.map_append,
      List.map_map, Option.toList_map]
  header h member := by
    obtain ⟨h', found, rfl⟩ := Option.map_eq_some_iff.mp member
    rw [Entry.isHeader_asWritten]
    exact laid.header h' found
  key n incoming := laid.key n incoming
  message n incoming := laid.message n incoming
  retired l member := by
    obtain ⟨l', old, rfl⟩ := List.mem_map.mp member
    exact Entry.retired_asWritten (laid.retired l' old)

end Catalog.LaidOut

/-! ## Merging with the same incoming catalog again -/

/-- The entry a merge builds from an incoming message has its identity. -/
theorem Catalog.key_mergedFrom (E : Catalog) (n : Entry) : (E.mergedFrom n).key = n.key := by
  unfold Catalog.mergedFrom
  split
  · exact (keeps_mergeWith _ n).key
  · rfl

/-- A merge lays out its result as a merge. -/
theorem Catalog.laidOut_merge (E I : Catalog) :
    (E.merge I).LaidOut I (mergedHeader E.header? I.header?) E.mergedFrom
      (E.entries.zipIdx.filterMap fun y =>
        if y.1.isHeader || (I.messages.filterMap fun n =>
            (selectFor E.entries.zipIdx n.key).map (·.2)).contains y.2 then none
        else some y.1.retired) where
  entries := Catalog.merge_entries E I
  header h member := Catalog.isHeader_of_mem_merged (Option.mem_toList.mpr member)
  key n _ := E.key_mergedFrom n
  message n incoming := Catalog.message_of_mem_built (List.mem_map_of_mem incoming)
  retired l member := by
    rw [filterMap_retiring] at member
    obtain ⟨y, -, rfl⟩ := List.mem_map.mp member
    rfl

/-- The header of a merge into a catalog with a header, as written, is kept by merging the same
incoming header again. -/
theorem mergedHeader_asWritten_again {old : Entry} (header : old.isHeader = true)
    (new : Option Entry) :
    mergedHeader ((mergedHeader (some old) new).map Entry.asWritten) new =
      (mergedHeader (some old) new).map Entry.asWritten := by
  have live := Entry.live_of_isHeader header
  cases created : new.bind fun h => headerValue h.firstString creationField with
  | none => simp [mergedHeader, created]
  | some date =>
    -- the merged header has one string and stays live, so it is written as it is
    have merged : mergedHeader (some old) new =
        some { old with msgstr := [setHeaderField old.firstString creationField date] } := by
      simp [mergedHeader, created]
    have written : ({ old with msgstr := [setHeaderField old.firstString creationField date] } :
        Entry).asWritten = { old with msgstr := [setHeaderField old.firstString creationField date] } := by
      cases plural : old.isPlural <;>
        simp_all [Entry.asWritten, Entry.isPlural, Entry.firstString]
    rw [merged, Option.map_some, written, ← merged]
    exact mergedHeader_again old new

/-- What the incoming catalog of a write is like: its header first and then only live messages
with distinct identities, each entry as the printer writes it, each message with
previous-message lines only when fuzzy and at least two strings when plural, and a header that
merging with itself keeps. -/
structure Catalog.Incoming (c : Catalog) : Prop where
  entries : c.entries = c.header?.toList ++ c.messages
  keys : (c.messages.map Entry.key).Nodup
  written : ∀ e ∈ c.entries, e.asWritten = e
  previous : ∀ n ∈ c.messages, n.isFuzzy = false → n.previous = []
  plural : ∀ n ∈ c.messages, n.isPlural = true → 2 ≤ n.msgstr.length
  header : ∀ h ∈ c.header?, mergedHeader (some h) (some h) = some h

/-- A message of a catalog is a live entry other than the header. -/
theorem Catalog.of_mem_messages {c : Catalog} {n : Entry} (message : n ∈ c.messages) :
    n.isHeader = false ∧ n.obsolete = false := by
  simpa using (List.mem_filter.mp message).2

theorem Catalog.mem_entries_of_mem_messages {c : Catalog} {n : Entry} (message : n ∈ c.messages) :
    n ∈ c.entries :=
  (List.mem_filter.mp message).1

/-- An incoming message is its own merge when it is live, has one string when singular and at
least two when plural, and has previous-message lines only when fuzzy. -/
theorem Entry.mergeWith_self_of_shaped {n : Entry} (live : n.obsolete = false)
    (singular : n.isPlural = false → n.msgstr.length = 1)
    (plural : n.isPlural = true → 2 ≤ n.msgstr.length)
    (previous : n.isFuzzy = false → n.previous = []) : n.mergeWith n = n := by
  refine Entry.mergeWith_self live previous ?_
  cases shape : n.isPlural with
  | true => simp [reshape, Nat.max_eq_left (plural shape)]
  | false =>
    obtain ⟨s, single⟩ := List.length_eq_one_iff.mp (singular shape)
    simp [reshape, single]

namespace Catalog.Incoming

variable {c : Catalog}

/-- Every incoming message is its own merge. -/
theorem settled (incoming : c.Incoming) {n : Entry} (message : n ∈ c.messages) :
    n.mergeWith n = n := by
  have written := incoming.written n (Catalog.mem_entries_of_mem_messages message)
  refine Entry.mergeWith_self_of_shaped (Catalog.of_mem_messages message).2 (fun singular => ?_)
    (incoming.plural n message) (incoming.previous n message)
  -- a singular message as the printer writes it has its first string only
  rw [← written]
  simp [Entry.asWritten, singular]

/-- Merging an incoming catalog into itself gives it back. -/
theorem merge_self (incoming : c.Incoming) : c.merge c = c := by
  have laid : c.LaidOut c c.header? id [] :=
    { entries := by rw [List.map_id, List.append_nil]; exact incoming.entries
      header := fun h found => Catalog.isHeader_of_header? found
      key := fun n _ => rfl
      message := fun n message => Catalog.of_mem_messages message
      retired := fun l member => absurd member List.not_mem_nil }
  refine laid.merge_eq_self incoming.keys ?_ fun n message => incoming.settled message
  cases found : c.header? with
  | none => rfl
  | some h => exact incoming.header h found

end Catalog.Incoming

/-- **Merging the same incoming catalog into what a merge with it wrote changes nothing**: the
catalog read back from the text of a merge of `E` with `I` is what merging `I` into it gives. -/
theorem Catalog.merge_asWritten_merge (E I : Catalog) (incoming : I.Incoming) :
    (E.merge I).asWritten.merge I = (E.merge I).asWritten := by
  refine (E.laidOut_merge I).asWritten.merge_eq_self incoming.keys ?_ ?_
  · cases existing : E.header? with
    | none =>
      -- the incoming header came in, and it is written as it is
      have kept : I.header?.map Entry.asWritten = I.header? := by
        cases found : I.header? with
        | none => rfl
        | some h => simp [incoming.written h (List.mem_of_find?_eq_some found)]
      simp only [mergedHeader, kept]
      cases found : I.header? with
      | none => rfl
      | some h => exact incoming.header h found
    | some old => exact mergedHeader_asWritten_again (Catalog.isHeader_of_header? existing) _
  · intro n message
    simp only [Function.comp, Catalog.mergedFrom]
    split
    · rw [Entry.asWritten_mergeWith]
      exact Entry.mergeWith_mergeWith _ n
    · rw [incoming.written n (Catalog.mem_entries_of_mem_messages message)]
      exact incoming.settled message

/-! ## Merging the same incoming catalog twice -/

/-- **Merging the same incoming catalog twice is merging it once**, when the incoming messages
have distinct identities, each has one string when singular and at least two when plural and
previous-message lines only when fuzzy, and the existing catalog has a header whenever the
incoming one has. -/
theorem Catalog.merge_merge (E I : Catalog) (distinct : (I.messages.map Entry.key).Nodup)
    (singular : ∀ n ∈ I.messages, n.isPlural = false → n.msgstr.length = 1)
    (plural : ∀ n ∈ I.messages, n.isPlural = true → 2 ≤ n.msgstr.length)
    (previous : ∀ n ∈ I.messages, n.isFuzzy = false → n.previous = [])
    (headers : E.header? = none → I.header? = none) :
    (E.merge I).merge I = E.merge I := by
  refine (E.laidOut_merge I).merge_eq_self distinct ?_ ?_
  · -- an existing header keeps the creation date it took; without one, none came in
    cases existing : E.header? with
    | some old => exact mergedHeader_again old _
    | none => simp [mergedHeader, headers existing]
  · -- a message built from an existing entry is built again into itself, and so is a new one
    intro n message
    unfold Catalog.mergedFrom
    split
    · exact Entry.mergeWith_mergeWith _ n
    · exact Entry.mergeWith_self_of_shaped (Catalog.of_mem_messages message).2
        (singular n message) (plural n message) (previous n message)

/-- An existing catalog with a header, a message that is no longer extracted and an obsolete
translation of one that is again. -/
def revivingExisting : Catalog :=
  { entries := [{ msgstr := ["POT-Creation-Date: 1\n"] },
      { msgid := "a", msgstr := ["A"], obsolete := true },
      { msgid := "b", msgstr := ["B"], flags := ["fuzzy"], previous := ["msgid \"c\""] }] }

/-- An incoming catalog with a new creation date, the revived message and a new plural one. -/
def revivingIncoming : Catalog :=
  { entries := [{ msgstr := ["POT-Creation-Date: 2\n"] },
      { msgid := "a", msgstr := [""] },
      { msgid := "p", msgidPlural := some "ps", msgstr := ["", ""] }] }

theorem merge_merge_reviving :
    (revivingIncoming.messages.map Entry.key).Nodup ∧
      (∀ n ∈ revivingIncoming.messages, n.isPlural = false → n.msgstr.length = 1) ∧
      (∀ n ∈ revivingIncoming.messages, n.isPlural = true → 2 ≤ n.msgstr.length) ∧
      (∀ n ∈ revivingIncoming.messages, n.isFuzzy = false → n.previous = []) ∧
      (revivingExisting.header? = none → revivingIncoming.header? = none) ∧
      (revivingExisting.merge revivingIncoming).merge revivingIncoming =
        revivingExisting.merge revivingIncoming :=
  have distinct : (revivingIncoming.messages.map Entry.key).Nodup := by decide
  have singular : ∀ n ∈ revivingIncoming.messages, n.isPlural = false → n.msgstr.length = 1 := by
    decide
  have plural : ∀ n ∈ revivingIncoming.messages, n.isPlural = true → 2 ≤ n.msgstr.length := by
    decide
  have previous : ∀ n ∈ revivingIncoming.messages, n.isFuzzy = false → n.previous = [] := by
    decide
  have headers : revivingExisting.header? = none → revivingIncoming.header? = none := by decide
  ⟨distinct, singular, plural, previous, headers,
    Catalog.merge_merge revivingExisting revivingIncoming distinct singular plural previous headers⟩

end Localize.Po
