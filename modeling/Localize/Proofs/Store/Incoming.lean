import Localize.Proofs.Po.HeaderFields
import Localize.Proofs.Po.Rewriting
import Localize.Proofs.Store.Catalog

/-! # The catalog a domain's text brings in

Writing a domain's catalog reads its text, normalizes it, and merges what the normalized
catalog reads back as. When the language, the positions and the contexts hold no newline, that
catalog is incoming (`Store.incoming_renderDomain`): the store's header, which already carries
the creation date it is dated with (`mergedHeader_headerEntry`), followed by fresh messages of
distinct identities, since every block reads as a fresh message (`Occurrence.fresh_readEntry`)
and normalizing keeps messages fresh.
-/

namespace Localize

open Localize.Text Localize.Po

/-! ## The header -/

/-- The creation date every catalog the store writes carries. -/
def creationDate : String := "2019-11-29 14:11+0000"

theorem toList_headerText (language : String) :
    (headerEntry language).firstString.toList =
      ((headerFields language).map String.toList).flatMap (· ++ ['\n']) := by
  simp [headerEntry, Entry.firstString, String.toList_join, List.flatMap_map]

/-- The two fields before the creation date, which do not depend on the language. -/
def leadingFields : List String := ["Project-Id-Version: PACKAGE VERSION", "Report-Msgid-Bugs-To: "]

theorem headerFields_eq (language : String) :
    headerFields language =
      leadingFields ++ (creationField ++ ": " ++ creationDate) :: (headerFields language).drop 3 :=
  rfl

theorem leadingFields_not_creation :
    ∀ l ∈ leadingFields.map String.toList, isField creationField.toList l = false := by
  decide

/-- The store's header carries its creation date as its third field. -/
theorem headerValue_creationField {language : String} (plain : '\n' ∉ language.toList) :
    headerValue (headerEntry language).firstString creationField = some creationDate := by
  have rows : ∀ l ∈ (headerFields language).map String.toList, '\n' ∉ l := by
    intro l member
    obtain ⟨field, listed, rfl⟩ := List.mem_map.mp member
    exact headerFields_plain plain field listed
  have stripped : ∀ l ∈ leadingFields, (stripReturn ∘ String.toList) l = l.toList := by decide
  have created : stripReturn (creationField ++ ": " ++ creationDate).toList =
      (creationField ++ ": " ++ creationDate).toList := by
    decide
  have split : lines (headerEntry language).firstString.toList =
      leadingFields.map String.toList ++ (creationField ++ ": " ++ creationDate).toList ::
        ((headerFields language).drop 3).map (stripReturn ∘ String.toList) := by
    rw [toList_headerText, lines_flatMap _ rows]
    conv_lhs => rw [headerFields_eq]
    rw [List.map_append, List.map_append, List.map_map, List.map_cons, List.map_cons,
      List.map_map, List.map_congr_left stripped, created]
  rw [@headerValue_of_lines _ _ _ _ _ creationField.toList (" " ++ creationDate).toList split
    leadingFields_not_creation (by decide) (by decide)]
  decide

theorem pieces_headerText (language : String) (plain : '\n' ∉ language.toList) :
    pieces (headerEntry language).firstString.toList =
      (headerFields language).map fun field => field.toList ++ ['\n'] := by
  have ended : ∀ p ∈ (headerFields language).map fun field => field.toList ++ ['\n'],
      EndedLine p := by
    intro p member
    obtain ⟨field, listed, rfl⟩ := List.mem_map.mp member
    exact ⟨field.toList, headerFields_plain plain field listed, rfl⟩
  have whole := pieces_flatten_append ended []
  rw [pieces_nil, List.append_nil, List.append_nil, ← List.flatMap_def] at whole
  rw [toList_headerText, List.flatMap_map, ← whole]

theorem headerEntry_msgstr (language : String) :
    (headerEntry language).msgstr = [(headerEntry language).firstString] := by
  simp [headerEntry, Entry.firstString]

/-- The store's header is written as it is: a live entry with a single string. -/
theorem asWritten_headerEntry (language : String) :
    (headerEntry language).asWritten = headerEntry language :=
  Entry.asWritten_eq_self rfl rfl (headerEntry_msgstr language)

/-- **The store's header keeps its own creation date**: dating it with the date it carries
leaves it as it is. -/
theorem mergedHeader_headerEntry {language : String} (plain : '\n' ∉ language.toList) :
    mergedHeader (some (headerEntry language)) (some (headerEntry language)) =
      some (headerEntry language) := by
  have cut : pieces (headerEntry language).firstString.toList =
      leadingFields.map (fun field => field.toList ++ ['\n']) ++
        fieldPiece creationField creationDate ::
          ((headerFields language).drop 3).map fun field => field.toList ++ ['\n'] := by
    rw [pieces_headerText language plain]
    conv_lhs => rw [headerFields_eq]
    rw [List.map_append, List.map_cons]
    rfl
  have others : ∀ p ∈ leadingFields.map (fun field => field.toList ++ ['\n']),
      isField creationField.toList p = false := by
    decide
  have dated := setHeaderField_of_pieces fieldName_creationField cut others
  simp only [mergedHeader, Option.bind_some, headerValue_creationField plain, dated]
  rw [← headerEntry_msgstr]

/-! ## The messages -/

/-- Every block of the store reads as a fresh message. -/
theorem Occurrence.fresh_readEntry (o : Occurrence) : o.readEntry.Fresh := by
  have words : ∀ r ∈ o.readEntry.references, IsWord r := by
    intro r member
    obtain ⟨w, found, rfl⟩ := List.mem_map.mp member
    obtain ⟨nonempty, solid⟩ := mem_words found
    exact ⟨by simpa using nonempty, by simpa using fun c inside => (solid c inside).1⟩
  have strings : o.readEntry.msgstr.length ≤ 2 := by
    by_cases empty : o.plural.isEmpty <;>
      simp [Occurrence.readEntry, Occurrence.entry, empty]
  refine ⟨⟨⟨by simp [Occurrence.readEntry, Occurrence.entry], by simp [Occurrence.readEntry,
    Occurrence.entry], words, by simp [Occurrence.readEntry, Occurrence.entry],
    by simp [Occurrence.readEntry, Occurrence.entry]⟩, o.entry_msgstr_ne_nil,
    strings.trans two_le_maxIndex⟩, rfl, rfl, fun many => ?_⟩
  have plural : o.plural.isEmpty = false := by
    simpa [Occurrence.readEntry, Occurrence.entry, Entry.isPlural] using many
  simp [Occurrence.readEntry, Occurrence.entry, plural]

/-- **What a domain's text brings in.** For a store, a domain and a language where the language,
the positions and the contexts hold no newline, the domain's text reads, its normalized catalog
fits, and that catalog, written and read again, is incoming. -/
theorem Store.incoming_renderDomain (s : Store) (domain : String) {language : String}
    (plain : '\n' ∉ language.toList)
    (positions : ∀ o ∈ s.occurrencesOf domain, '\n' ∉ o.position.toList)
    (contexts : ∀ o ∈ s.occurrencesOf domain, '\n' ∉ o.context.toList) :
    ∃ B, Catalog.parse (s.renderDomain domain language) = .ok B ∧
      (∀ e ∈ B.normalize.entries, e.Fits) ∧ B.normalize.asWritten.Incoming := by
  have read := s.parse_renderDomain_plain domain plain positions contexts
  have messages : ∀ e ∈ (s.blockOccurrences domain).map Occurrence.readEntry,
      e.isHeader = false ∧ e.Fresh := by
    intro e member
    obtain ⟨o, block, rfl⟩ := List.mem_map.mp member
    refine ⟨?_, o.fresh_readEntry⟩
    simp [Entry.isHeader, Occurrence.readEntry, Occurrence.entry,
      Store.named_of_mem_blockOccurrences block]
  obtain ⟨ks, normalized, kept⟩ :=
    Catalog.normalize_header_cons (fun t d => Entry.Fresh.absorb) (headerEntry_isHeader language)
      messages
  refine ⟨_, read, ?_, ?_⟩
  · intro e member
    rw [normalized] at member
    rcases List.mem_cons.mp member with rfl | message
    · exact Catalog.fits_of_parse read _ List.mem_cons_self
    · exact (kept.message e message).2.fits
  · rw [normalized]
    exact Catalog.incoming_asWritten (headerEntry_isHeader language)
      (asWritten_headerEntry language) (mergedHeader_headerEntry plain) kept

end Localize
