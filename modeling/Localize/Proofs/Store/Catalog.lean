import Mathlib.Data.List.Nodup
import Localize.Po.Entry
import Localize.Proofs.Po.Merging
import Localize.Proofs.Store.Reading

/-! # What a domain's catalog holds

A domain's catalog text reads as the header entry followed by the entry of each block
(`Store.parse_renderDomain`). Normalizing then merges the entries of one message: the entries of
occurrences `os`, in the order of their blocks, normalize to `catalogEntries os`, one entry per
distinct message (context and singular) in the order of the message's first occurrence, with the
distinct positions of its occurrences as references, the first plural that is not empty, and
empty strings (`messageEntry`).

The proof follows normalizing one entry at a time: an occurrence's entry is absorbed into the
entry of its message when there is one (`messageEntry_absorb`) and appended otherwise
(`keepEntry_catalogEntries`), so a whole run keeps the header and `catalogEntries`
(`foldl_keepEntry_catalogEntries`).
-/

namespace Localize

open Localize.Text Localize.Po

/-! ## Distinct values -/

theorem nodup_eraseDups {α : Type} [BEq α] [LawfulBEq α] (xs : List α) : xs.eraseDups.Nodup := by
  cases xs with
  | nil => simp
  | cons x rest =>
    rw [List.eraseDups_cons, List.nodup_cons]
    refine ⟨fun member => ?_, nodup_eraseDups _⟩
    simp [List.mem_eraseDups] at member
termination_by xs.length
decreasing_by
  have shorter := List.length_filter_le (fun y => !y == x) rest
  simp only [List.length_cons]
  omega

theorem eraseDups_singleton {α : Type} [BEq α] (x : α) : [x].eraseDups = [x] := by
  simp [List.eraseDups_cons]

theorem eraseDups_concat_of_mem {α : Type} [BEq α] [LawfulBEq α] {xs : List α} {x : α}
    (member : x ∈ xs) : (xs ++ [x]).eraseDups = xs.eraseDups := by
  rw [List.eraseDups_append]
  simp [List.removeAll, member]

theorem eraseDups_concat_of_not_mem {α : Type} [BEq α] [LawfulBEq α] {xs : List α} {x : α}
    (fresh : x ∉ xs) : (xs ++ [x]).eraseDups = xs.eraseDups ++ [x] := by
  rw [List.eraseDups_append]
  simp [List.removeAll, fresh, eraseDups_singleton]

/-- Over distinct keys, the first entry whose key is the `i`-th is the `i`-th. -/
theorem findIdx?_map_of_nodup {α β : Type} [BEq α] [LawfulBEq α] {keys : List α}
    (distinct : keys.Nodup) {i : Nat} (bound : i < keys.length) {f : α → β} {p : β → Bool}
    (matching : ∀ k ∈ keys, p (f k) = (k == keys[i])) : (keys.map f).findIdx? p = some i := by
  rw [List.findIdx?_map, List.findIdx?_eq_some_iff_getElem]
  refine ⟨bound, by simp [matching _ (List.getElem_mem bound)], fun j before => ?_⟩
  rw [Function.comp_apply, matching _ (List.getElem_mem _), beq_iff_eq,
    List.Nodup.getElem_inj_iff distinct]
  omega

/-- Over distinct keys, changing the entry at the position of a key is changing its value. -/
theorem modify_map_of_nodup {α β : Type} {keys : List α} (distinct : keys.Nodup) {i : Nat}
    (bound : i < keys.length) {f g : α → β} {h : β → β} (changed : g keys[i] = h (f keys[i]))
    (same : ∀ k ∈ keys, k ≠ keys[i] → g k = f k) : (keys.map f).modify i h = keys.map g := by
  refine List.ext_getElem (by simp) fun j inside _ => ?_
  rw [List.getElem_modify, List.getElem_map, List.getElem_map]
  by_cases here : i = j
  · subst here
    simp [changed]
  · have within : j < keys.length := by simpa using inside
    have other : keys[j] ≠ keys[i] := by
      rw [Ne, List.Nodup.getElem_inj_iff distinct]
      omega
    simp [here, same _ (List.getElem_mem within) other]

/-- Adding one value to distinct values keeps them distinct. -/
theorem pushMissing_eraseDups (xs : List String) (x : String) :
    pushMissing xs.eraseDups [x] = (xs ++ [x]).eraseDups := by
  rw [pushMissing_cons]
  by_cases member : x ∈ xs
  · simp [pushMissing, eraseDups_concat_of_mem member, List.mem_eraseDups, member]
  · simp [pushMissing, eraseDups_concat_of_not_mem member, List.mem_eraseDups, member]

/-! ## One entry per message -/

/-- The message an occurrence stands for in a catalog: its context and its singular. -/
def Occurrence.message (o : Occurrence) : String × String := (o.context, o.singular)

/-- The context an entry carries for a context text: none for the empty text. -/
def contextField (context : String) : Option String :=
  if context.isEmpty then none else some context

theorem contextField_inj {a b : String} : contextField a = contextField b ↔ a = b := by
  constructor
  · intro same
    by_cases empty : a.isEmpty <;> by_cases other : b.isEmpty <;>
      simp_all [contextField, String.isEmpty_iff]
  · rintro rfl
    rfl

/-- The entry a catalog holds for the occurrences `group` of message `m`, in order: its context
when it is not empty, its singular, the distinct positions, the first plural that is not empty,
and one empty string, or two when some occurrence has a plural. -/
def messageEntry (m : String × String) (group : List Occurrence) : Entry where
  references := (group.map (·.position)).eraseDups
  msgctxt := contextField m.1
  msgid := m.2
  msgidPlural := (group.find? (!·.plural.isEmpty)).map (·.plural)
  msgstr := if group.any (!·.plural.isEmpty) then ["", ""] else [""]

/-- The entries of a catalog for occurrences in order: one per distinct message, in the order of
the message's first occurrence. -/
def catalogEntries (os : List Occurrence) : List Entry :=
  (os.map (·.message)).eraseDups.map fun m => messageEntry m (os.filter (·.message == m))

theorem Occurrence.entry_isFilled (o : Occurrence) : o.entry.isFilled = false := by
  by_cases plain : o.plural.isEmpty <;> simp [Occurrence.entry, Entry.isFilled, plain]

theorem Occurrence.entry_isHeader {o : Occurrence} (named : o.singular.isEmpty = false) :
    o.entry.isHeader = false := by
  simp [Occurrence.entry, Entry.isHeader, named]

theorem messageEntry_isHeader {m : String × String} (named : m.2.isEmpty = false)
    (group : List Occurrence) : (messageEntry m group).isHeader = false := by
  simp [messageEntry, Entry.isHeader, named]

/-- An entry of a message is merged with an occurrence's entry exactly when the occurrence is of
that message. -/
theorem dedupKey_messageEntry (m : String × String) (group : List Occurrence) (o : Occurrence) :
    (messageEntry m group).dedupKey = o.entry.dedupKey ↔ m = o.message := by
  obtain ⟨context, singular⟩ := m
  have key : o.entry.dedupKey = (false, contextField o.context, o.singular) := rfl
  rw [key]
  simp [messageEntry, Entry.dedupKey, contextField_inj, Occurrence.message]

/-- The entry of one occurrence alone is the occurrence's entry. -/
theorem messageEntry_singleton (o : Occurrence) : messageEntry o.message [o] = o.entry := by
  by_cases plain : o.plural.isEmpty <;>
    simp [messageEntry, Occurrence.entry, Occurrence.message, contextField, plain, eraseDups_singleton]

/-- Absorbing an occurrence's entry into the entry of its message adds the occurrence to the
message: its position when it is new, and its plural when the message has none yet. -/
theorem messageEntry_absorb (m : String × String) (group : List Occurrence) (o : Occurrence) :
    (messageEntry m group).absorb o.entry = messageEntry m (group ++ [o]) := by
  have references : pushMissing (messageEntry m group).references o.entry.references =
      ((group ++ [o]).map (·.position)).eraseDups := by
    rw [List.map_append, List.map_singleton]
    exact pushMissing_eraseDups _ _
  have unnoted : o.entry.extracted = [] ∧ o.entry.comments = [] ∧ o.entry.flags = [] :=
    ⟨rfl, rfl, rfl⟩
  simp only [Entry.absorb, Occurrence.entry_isFilled, Bool.and_false, Bool.false_eq_true,
    if_false, references, unnoted, List.foldl_nil]
  cases found : group.find? (!·.plural.isEmpty) with
  | some first =>
    -- the message has a plural already: only the position is added
    have chosen := List.find?_some found
    have some : group.any (!·.plural.isEmpty) = true :=
      List.any_eq_true.mpr ⟨first, List.mem_of_find?_eq_some found, chosen⟩
    simp [messageEntry, found, some, List.find?_append, pushMissing]
  | none =>
    have none : group.any (!·.plural.isEmpty) = false := by
      simpa using List.find?_eq_none.mp found
    by_cases plain : o.plural.isEmpty
    · simp [messageEntry, found, none, plain, Occurrence.entry, List.find?_append, pushMissing]
    · -- the occurrence brings the message's first plural, and the strings grow to two forms
      simp [messageEntry, found, none, plain, Occurrence.entry, List.find?_append, pushMissing,
        reshape]

/-! ## Normalizing, one entry at a time -/

/-- The messages of distinct entries of `catalogEntries`, in order. -/
theorem catalogEntries_eq (os : List Occurrence) :
    catalogEntries os =
      (os.map (·.message)).eraseDups.map fun m => messageEntry m (os.filter (·.message == m)) :=
  rfl

/-- Every message of the occurrences has a singular that is not empty when every occurrence
does. -/
theorem named_of_mem_eraseDups {os : List Occurrence} (named : ∀ o ∈ os, o.singular.isEmpty = false)
    {m : String × String} (member : m ∈ (os.map (·.message)).eraseDups) : m.2.isEmpty = false := by
  obtain ⟨o, listed, rfl⟩ := List.mem_map.mp (List.mem_eraseDups.mp member)
  exact named o listed

/-- The occurrences of another message are untouched by one more occurrence. -/
theorem filter_message_concat_of_ne {os : List Occurrence} {o : Occurrence} {m : String × String}
    (other : m ≠ o.message) :
    (os ++ [o]).filter (·.message == m) = os.filter (·.message == m) := by
  simp [List.filter_append, Ne.symm other]

theorem filter_message_concat (os : List Occurrence) (o : Occurrence) :
    (os ++ [o]).filter (·.message == o.message) = os.filter (·.message == o.message) ++ [o] := by
  simp [List.filter_append]

/-- Taking in one more occurrence's entry after the header and the entries of earlier
occurrences gives the header and the entries of all of them. -/
theorem keepEntry_catalogEntries {header : Entry} (isHeader : header.isHeader = true)
    {os : List Occurrence} {o : Occurrence} (named : ∀ p ∈ os ++ [o], p.singular.isEmpty = false) :
    keepEntry (header :: catalogEntries os, true) o.entry =
      (header :: catalogEntries (os ++ [o]), true) := by
  simp only [keepEntry, Occurrence.entry_isHeader (named o (by simp)), Bool.false_eq_true,
    if_false, List.findIdx?_cons, isHeader, Bool.not_true, Bool.false_and, catalogEntries_eq]
  set keys := (os.map (·.message)).eraseDups
  have earlier : ∀ p ∈ os, p.singular.isEmpty = false := fun p member =>
    named p (List.mem_append_left _ member)
  have matching : ∀ m ∈ keys, (!(messageEntry m (os.filter (·.message == m))).isHeader &&
      (messageEntry m (os.filter (·.message == m))).dedupKey == o.entry.dedupKey) =
        (m == o.message) := by
    intro m member
    rw [messageEntry_isHeader (named_of_mem_eraseDups earlier member)]
    simp [dedupKey_messageEntry]
  have distinct : keys.Nodup := nodup_eraseDups _
  by_cases member : o.message ∈ keys
  · -- the message has an entry already, at the position of its first occurrence
    obtain ⟨i, bound, at_i⟩ := List.getElem_of_mem member
    have found : (keys.map fun m => messageEntry m (os.filter (·.message == m))).findIdx?
        (fun e => !e.isHeader && e.dedupKey == o.entry.dedupKey) = some i :=
      findIdx?_map_of_nodup distinct bound fun m listed => (matching m listed).trans (by rw [at_i])
    have kept : (os.map (·.message) ++ [o.message]).eraseDups = keys :=
      eraseDups_concat_of_mem (List.mem_eraseDups.mp member)
    simp only [found, Option.map_some, List.modify_succ_cons, List.map_append, List.map_singleton,
      kept, Prod.mk.injEq, List.cons.injEq, true_and, and_true]
    exact modify_map_of_nodup distinct bound
      (by rw [at_i, messageEntry_absorb, filter_message_concat])
      fun m _ other => by rw [filter_message_concat_of_ne (at_i ▸ other)]
  · -- a new message: its entry comes last
    have fresh : o.message ∉ os.map (·.message) := fun listed =>
      member (List.mem_eraseDups.mpr listed)
    have missing : (keys.map fun m => messageEntry m (os.filter (·.message == m))).findIdx?
        (fun e => !e.isHeader && e.dedupKey == o.entry.dedupKey) = none := by
      rw [List.findIdx?_map, List.findIdx?_eq_none_iff]
      intro m listed
      simp only [Function.comp_apply, matching m listed, beq_eq_false_iff_ne]
      exact fun same => member (same ▸ listed)
    have alone : (os ++ [o]).filter (·.message == o.message) = [o] := by
      rw [filter_message_concat, List.filter_eq_nil_iff.mpr fun p listed same =>
        fresh (List.mem_map.mpr ⟨p, listed, by simpa using same⟩), List.nil_append]
    simp only [missing, Option.map_none, List.map_append, List.map_singleton,
      eraseDups_concat_of_not_mem fresh, List.map_append, List.map_singleton, alone,
      messageEntry_singleton, Prod.mk.injEq, and_true, List.cons_append]
    refine congrArg (header :: ·) (congrArg (· ++ [o.entry]) (List.map_congr_left fun m listed => ?_))
    have other : m ≠ o.message := fun same => member (same ▸ listed)
    rw [filter_message_concat_of_ne other]

/-- Normalizing the entries of occurrences after a header keeps the header and one entry per
message. -/
theorem foldl_keepEntry_catalogEntries {header : Entry} (isHeader : header.isHeader = true)
    (os : List Occurrence) (named : ∀ o ∈ os, o.singular.isEmpty = false) :
    (os.map Occurrence.entry).foldl keepEntry ([header], true) = (header :: catalogEntries os, true) := by
  induction os using List.reverseRecOn with
  | nil => rfl
  | append_singleton os o ih =>
    rw [List.map_append, List.foldl_append, ih fun p member => named p (List.mem_append_left _ member),
      List.map_singleton, List.foldl_cons, List.foldl_nil]
    exact keepEntry_catalogEntries isHeader named

/-- A catalog of a header and the entries of occurrences normalizes to the header and one entry
per message. -/
theorem normalize_catalogEntries {header : Entry} (isHeader : header.isHeader = true)
    (os : List Occurrence) (named : ∀ o ∈ os, o.singular.isEmpty = false) :
    ({ entries := header :: os.map Occurrence.entry } : Catalog).normalize =
      { entries := header :: catalogEntries os } := by
  simp only [Catalog.normalize, List.foldl_cons, keepEntry, isHeader, if_true, Bool.false_eq_true,
    if_false, List.nil_append]
  rw [foldl_keepEntry_catalogEntries isHeader os named]

/-! ## The language of the header -/

/-- A header names field `name` on its first line that is that field: the value is that line's
text after its first colon, trimmed. -/
theorem headerValue_of_lines {header name : String} {before after : List (List Char)}
    {line field value : List Char} (text : lines header.toList = before ++ line :: after)
    (others : ∀ l ∈ before, isField name.toList l = false)
    (split : splitOnce ':' line = some (field, value)) (named : trimBlank field = name.toList) :
    headerValue header name = some (String.ofList (trimBlank value)) := by
  rw [headerValue, text, List.findSome?_append, List.findSome?_eq_none_iff.mpr, Option.none_or,
    List.findSome?_cons, split]
  · simp [named]
  · -- no line before is the field
    intro l member
    have other := others l member
    unfold isField at other
    split
    · rename_i field value found
      rw [found] at other
      simp only at other
      simp [other]
    · rfl

/-- The header names the language it was written for, trimmed. -/
theorem headerValue_language {language : String} (plain : '\n' ∉ language.toList) :
    headerValue (headerEntry language).firstString "Language" = some language.trimBlank := by
  have text : (headerEntry language).firstString.toList =
      ((headerFields language).map String.toList).flatMap (· ++ ['\n']) := by
    simp [headerEntry, Entry.firstString, String.toList_join, List.flatMap_map]
  have rows : ∀ l ∈ (headerFields language).map String.toList, '\n' ∉ l := by
    intro l member
    obtain ⟨field, listed, rfl⟩ := List.mem_map.mp member
    exact headerFields_plain plain field listed
  -- the six fields before the language's do not depend on it
  have fields : headerFields language =
      (headerFields "").take 6 ++ ("Language: " ++ language) :: (headerFields "").drop 7 := rfl
  have others : ∀ l ∈ ((headerFields "").take 6).map (stripReturn ∘ String.toList),
      isField "Language".toList l = false := by
    decide
  have row : stripReturn ("Language: " ++ language).toList =
      "Language".toList ++ ':' :: stripReturn (' ' :: language.toList) := by
    rw [String.toList_append, show "Language: ".toList = "Language".toList ++ [':', ' '] from rfl,
      List.append_assoc, List.cons_append, List.cons_append, List.nil_append,
      stripReturn_append_cons]
    exact congrArg ("Language".toList ++ ·) (stripReturn_append_cons [':'] ' ' language.toList)
  have split : lines (headerEntry language).firstString.toList =
      ((headerFields "").take 6).map (stripReturn ∘ String.toList) ++
        stripReturn ("Language: " ++ language).toList ::
          ((headerFields "").drop 7).map (stripReturn ∘ String.toList) := by
    rw [text, lines_flatMap _ rows, fields, List.map_append, List.map_append, List.map_cons,
      List.map_cons, List.map_map, List.map_map]
  rw [headerValue_of_lines split others (by rw [row]; exact splitOnce_append ':' _ _ (by decide))
    (by decide), trimBlank_stripReturn, ← List.singleton_append,
    @trimBlank_blank_append [' '] blank_space language.toList]
  rfl

/-! ## The catalog of a domain -/

theorem headerEntry_isHeader (language : String) : (headerEntry language).isHeader = true := rfl

theorem Store.named_of_mem_blockOccurrences {s : Store} {domain : String} {o : Occurrence}
    (member : o ∈ s.blockOccurrences domain) : o.singular.isEmpty = false := by
  simpa using (List.mem_filter.mp member).2

/-- **The store writes what its catalog holds.** For every store, domain and language without a
newline, where the domain's positions are words and its contexts hold no newline: the fixed
header reads as the header entry alone, whose `Language` field is the language trimmed; and the
domain's catalog text reads as a catalog that normalizes to that header followed by one entry
per distinct message of the domain's blocks, in the order of the message's first block
(`catalogEntries`). -/
theorem Store.normalize_parse_renderDomain (s : Store) (domain : String) {language : String}
    (plain : '\n' ∉ language.toList)
    (words : ∀ o ∈ s.occurrencesOf domain, IsWord o.position)
    (contexts : ∀ o ∈ s.occurrencesOf domain, '\n' ∉ o.context.toList) :
    Catalog.parse (canonicalHeader language) = .ok { entries := [headerEntry language] } ∧
      headerValue (headerEntry language).firstString "Language" = some language.trimBlank ∧
      ∃ c, Catalog.parse (s.renderDomain domain language) = .ok c ∧
        c.normalize =
          { entries := headerEntry language :: catalogEntries (s.blockOccurrences domain) } := by
  refine ⟨parse_canonicalHeader plain, headerValue_language plain, _,
    s.parse_renderDomain domain plain words contexts, ?_⟩
  exact normalize_catalogEntries (headerEntry_isHeader language) _
    fun o member => Store.named_of_mem_blockOccurrences member

/-- A store with messages in the domain `ui`: "File" found at `b.html:4`, then at `a.go:7` with
the plural "Files", then again at `a.go:7`; "Open" in the context "menu"; a message of the
default domain; and one with an empty singular. -/
def menuStore : Store :=
  { occurrences := [
      { position := "b.html:4", singular := "File", domain := "ui" },
      { position := "a.go:7", singular := "File", plural := "Files", domain := "ui" },
      { position := "a.go:2", singular := "Open", context := "menu", domain := "ui" },
      { position := "c.go:1", singular := "Hidden" },
      { position := "c.go:9", singular := "", domain := "ui" },
      { position := "a.go:7", singular := "File", domain := "ui" }] }

theorem menuStore_occurrencesOf : menuStore.occurrencesOf "ui" =
    [{ position := "b.html:4", singular := "File", domain := "ui" },
      { position := "a.go:7", singular := "File", plural := "Files", domain := "ui" },
      { position := "a.go:2", singular := "Open", context := "menu", domain := "ui" },
      { position := "c.go:9", singular := "", domain := "ui" },
      { position := "a.go:7", singular := "File", domain := "ui" }] := by decide +kernel

/-- `menuStore`'s blocks for `ui`: the empty context sorts first, positions in order within it, and
the two occurrences at `a.go:7` keep the order the store has them in. -/
theorem menuStore_blockOccurrences : menuStore.blockOccurrences "ui" =
    [{ position := "a.go:7", singular := "File", plural := "Files", domain := "ui" },
      { position := "a.go:7", singular := "File", domain := "ui" },
      { position := "b.html:4", singular := "File", domain := "ui" },
      { position := "a.go:2", singular := "Open", context := "menu", domain := "ui" }] := by
  -- the sort is well-founded recursion, which the kernel does not unfold: run it by its equations
  rw [Store.blockOccurrences, menuStore_occurrencesOf]
  simp +decide [List.mergeSort, List.MergeSort.Internal.splitInTwo, Occurrence.catalogOrder]

/-- The French catalog of `menuStore`'s domain `ui` reads, and normalizes to the header and two
entries: "File", with the positions of its three occurrences sorted and without the repeated one
and the plural of the occurrence that has one, then "Open" in its context. The default domain's
message and the empty singular are left out. -/
theorem Store.normalize_parse_renderDomain_menu :
    '\n' ∉ "fr".toList ∧ (∀ o ∈ menuStore.occurrencesOf "ui", IsWord o.position) ∧
      (∀ o ∈ menuStore.occurrencesOf "ui", '\n' ∉ o.context.toList) ∧
      Catalog.parse (canonicalHeader "fr") = .ok { entries := [headerEntry "fr"] } ∧
      headerValue (headerEntry "fr").firstString "Language" = some "fr".trimBlank ∧
      (∃ c, Catalog.parse (menuStore.renderDomain "ui" "fr") = .ok c ∧
        c.normalize = { entries := headerEntry "fr" :: catalogEntries (menuStore.blockOccurrences "ui") }) ∧
      catalogEntries (menuStore.blockOccurrences "ui") =
        [{ references := ["a.go:7", "b.html:4"], msgid := "File", msgidPlural := some "Files",
            msgstr := ["", ""] },
          { references := ["a.go:2"], msgctxt := some "menu", msgid := "Open", msgstr := [""] }] := by
  have plain : '\n' ∉ "fr".toList := by decide
  have words : ∀ o ∈ menuStore.occurrencesOf "ui", IsWord o.position := by
    intro o member
    simp only [menuStore_occurrencesOf, List.mem_cons, List.not_mem_nil, or_false] at member
    rcases member with rfl | rfl | rfl | rfl | rfl <;> exact ⟨by simp, by simp [isBlank]⟩
  have contexts : ∀ o ∈ menuStore.occurrencesOf "ui", '\n' ∉ o.context.toList := by decide +kernel
  obtain ⟨header, language, read⟩ :=
    Store.normalize_parse_renderDomain menuStore "ui" plain words contexts
  exact ⟨plain, words, contexts, header, language, read,
    by rw [menuStore_blockOccurrences]; decide +kernel⟩

end Localize
