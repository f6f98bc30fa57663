import Localize.Proofs.Po.Writing

/-! # The catalog codec round-trips

A catalog that the printer writes in full (`Catalog.Writable`: its entries are writable and only
the first may be a header) is read back from its text exactly (`Catalog.parse_render`): the text is
the lines of the entries in written order with an empty line between two entries
(`toList_render`), and the reader takes each entry in turn (`ReadState.lines_entries`, from
`ReadState.lines_entry`). Every catalog that reads has entries that fit
(`Catalog.fits_of_parse`), and the printer writes such a catalog as it writes its written form
(`Catalog.asWritten`: first header first, other headers dropped, obsolete entries without
references, singular entries with their first string), which it writes in full. Together these
give `catalog_codec_roundTrip`.
-/

namespace Localize.Po

open Localize.Text

/-- A catalog that the printer writes in full: its entries are writable and only the first may
be a header (the printer moves the first header to the front and drops the others). -/
structure Catalog.Writable (c : Catalog) : Prop where
  entries : ∀ e ∈ c.entries, e.Writable
  headerFirst : ∀ e ∈ c.entries.drop 1, e.isHeader = false

/-- The lines of a catalog's text: the lines of its entries in written order, with an empty
line between two entries. -/
theorem toList_render (c : Catalog) :
    c.render.toList = (([[]] : List (List Char)).intercalate
      (c.written.map fun e => e.lines.map String.toList)).flatMap (· ++ ['\n']) := by
  rw [Catalog.render, String.toList_intercalate, ← intercalate_blocks, List.map_map,
    List.map_map]
  congr 2
  funext e
  simp [Entry.render, String.toList_join, List.flatMap_map]

/-- A catalog the printer writes in full is written in its own order. -/
theorem Catalog.Writable.written_eq {c : Catalog} (w : c.Writable) : c.written = c.entries := by
  obtain ⟨entries⟩ := c
  cases entries with
  | nil => rfl
  | cons first rest =>
    have others : rest.filter Entry.isHeader = [] :=
      List.filter_eq_nil_iff.mpr fun e member => by simp [w.headerFirst e (by simpa using member)]
    have kept : rest.filter (!·.isHeader) = rest :=
      List.filter_eq_self.mpr fun e member => by simp [w.headerFirst e (by simpa using member)]
    cases header : first.isHeader <;> simp [Catalog.written, header, others, kept]

namespace ReadState

/-- Ending an entry the reader has read in full keeps it. -/
theorem finish_entry (ds : List Entry) {d : Draft} {e : Entry} (seen : d.seenId = true)
    (entry : d.entry = e) (forms : e.msgstr ≠ []) :
    ({ done := ds, draft := d } : ReadState).finish = { done := e :: ds } := by
  simp [ReadState.finish, seen, entry, forms]

/-- The entries the printer writes in full, with an empty line between two of them, are read
back in order. -/
theorem lines_entries (es : List Entry) (w : ∀ e ∈ es, e.Writable) (ds : List Entry) (n : Nat) :
    ∃ s : ReadState, ({ done := ds } : ReadState).lines n
        (([[]] : List (List Char)).intercalate (es.map fun e => e.lines.map String.toList)) =
      .ok s ∧ s.finish = { done := es.reverse ++ ds } := by
  induction es generalizing ds n with
  | nil => exact ⟨{ done := ds }, rfl, rfl⟩
  | cons e es ih =>
    have writable := w e List.mem_cons_self
    obtain ⟨d, read, entry, seen⟩ := lines_entry ds n writable
    cases es with
    | nil =>
      refine ⟨_, by simpa using read, ?_⟩
      simpa using finish_entry ds seen entry writable.forms
    | cons f fs =>
      obtain ⟨s, rest, finished⟩ := ih (fun g member => w g (List.mem_cons_of_mem e member))
        (e :: ds) (n + (e.lines.map String.toList).length + 1)
      refine ⟨s, ?_, by simpa using finished⟩
      simp only [List.map_cons, List.intercalate_cons_cons] at rest ⊢
      rw [lines_append, lines_append, read]
      simp only [bind, Except.bind, ReadState.lines, line_blank _ _ (show trimBlank [] = [] from rfl),
        finish_entry ds seen entry writable.forms]
      simpa [Nat.add_assoc] using rest

end ReadState

/-- **Printing then reading is the identity** on the catalogs the printer writes in full. -/
theorem Catalog.parse_render {c : Catalog} (w : c.Writable) : Catalog.parse c.render = .ok c := by
  have plain : ∀ l ∈ ([[]] : List (List Char)).intercalate
      (c.written.map fun e => e.lines.map String.toList), '\n' ∉ l := by
    intro l member
    rcases mem_intercalate member with separator | ⟨block, written, inside⟩
    · rw [List.mem_singleton.mp separator]
      simp
    · obtain ⟨e, entry, rfl⟩ := List.mem_map.mp written
      obtain ⟨line, printed, rfl⟩ := List.mem_map.mp inside
      rw [w.written_eq] at entry
      exact newline_not_mem_lines (w.entries e entry).toFits line printed
  obtain ⟨s, read, finished⟩ := ReadState.lines_entries c.written
    (fun e member => w.entries e (by rwa [w.written_eq] at member)) [] 1
  rw [Catalog.parse, toList_render, lines_flatMap _ plain, ReadState.lines_stripReturn, read]
  simp only [bind, Except.bind, pure, Except.pure, finished, List.append_nil,
    List.reverse_reverse, w.written_eq]

/-! ## What the printer writes of any catalog -/

/-- The entry as the printer writes it: an obsolete entry without references, a singular entry
with its first string only. -/
def Entry.asWritten (e : Entry) : Entry :=
  { e with
    references := if e.obsolete then [] else e.references
    msgstr := if e.isPlural then e.msgstr else [e.firstString] }

/-- The catalog as the printer writes it: the first header, then every entry that is not a
header, each as written. -/
def Catalog.asWritten (c : Catalog) : Catalog := { entries := c.written.map Entry.asWritten }

@[simp] theorem Entry.isHeader_asWritten (e : Entry) : e.asWritten.isHeader = e.isHeader := rfl

/-- The printer writes an entry as written the same lines as the entry. -/
theorem Entry.lines_asWritten (e : Entry) : e.asWritten.lines = e.lines := by
  obtain ⟨comments, extracted, references, flags, previous, msgctxt, msgid, plural, msgstr,
    obsolete⟩ := e
  cases obsolete <;> cases plural <;>
    simp [Entry.lines, Entry.asWritten, Entry.isPlural, Entry.firstString]

/-- An entry that fits, as written, is one the printer writes in full. -/
theorem Entry.Fits.writable_asWritten {e : Entry} (fit : e.Fits) : e.asWritten.Writable := by
  refine ⟨⟨⟨fit.comments, fit.extracted, fun r member => ?_, fit.flags, fit.previous⟩, ?_, ?_⟩,
    ?_, ?_⟩
  · have kept : r ∈ e.references := by
      simp only [Entry.asWritten] at member
      split at member
      · simp at member
      · exact member
    exact fit.references r kept
  · simp only [Entry.asWritten]
    split
    · exact fit.forms
    · simp
  · simp only [Entry.asWritten]
    split
    · exact fit.bounded
    · simp [maxIndex]
  · intro obsolete
    have marked : e.obsolete = true := obsolete
    simp [Entry.asWritten, marked]
  · intro singular
    have plain : e.msgidPlural = none := singular
    simp [Entry.asWritten, Entry.isPlural, plain]

/-- In written order, only the first entry may be a header. -/
theorem Catalog.isHeader_of_mem_drop_written (c : Catalog) :
    ∀ e ∈ c.written.drop 1, e.isHeader = false := by
  intro e member
  unfold Catalog.written at member
  cases headers : c.entries.filter Entry.isHeader with
  | nil =>
    rw [headers, List.take_nil, List.nil_append] at member
    simpa using (List.mem_filter.mp ((List.drop_sublist 1 _).subset member)).2
  | cons h hs =>
    rw [headers, List.take_succ_cons, List.take_zero, List.singleton_append,
      List.drop_one, List.tail_cons] at member
    simpa using (List.mem_filter.mp member).2

/-- The catalog as written is one the printer writes in full, when its entries fit. -/
theorem Catalog.writable_asWritten {c : Catalog} (fit : ∀ e ∈ c.entries, e.Fits) :
    c.asWritten.Writable := by
  refine ⟨fun e member => ?_, fun e member => ?_⟩
  · obtain ⟨f, written, rfl⟩ := List.mem_map.mp member
    have entry : f ∈ c.entries := by
      unfold Catalog.written at written
      rcases List.mem_append.mp written with header | other
      · exact (List.mem_filter.mp ((List.take_sublist 1 _).subset header)).1
      · exact (List.mem_filter.mp other).1
    exact (fit f entry).writable_asWritten
  · rw [Catalog.asWritten, ← List.map_drop] at member
    obtain ⟨f, later, rfl⟩ := List.mem_map.mp member
    rw [Entry.isHeader_asWritten]
    exact c.isHeader_of_mem_drop_written f later

/-- The printer writes the catalog as written the same text as the catalog. -/
theorem Catalog.render_asWritten {c : Catalog} (fit : ∀ e ∈ c.entries, e.Fits) :
    c.asWritten.render = c.render := by
  rw [Catalog.render, (Catalog.writable_asWritten fit).written_eq, Catalog.render]
  simp only [Catalog.asWritten, List.map_map]
  congr 2
  funext e
  simp [Entry.render, Entry.lines_asWritten]

/-- **The catalog codec round-trips.** Reading what the printer writes gives the catalog back,
for every catalog the printer writes in full; and for every text that reads, printing what was
read and reading that again gives a catalog the printer writes in full and that prints the same
text, so printing after reading is idempotent. -/
theorem catalog_codec_roundTrip :
    (∀ c : Catalog, c.Writable → Catalog.parse c.render = .ok c) ∧
      ∀ (t : String) (p : Catalog), Catalog.parse t = .ok p →
        ∃ c', Catalog.parse p.render = .ok c' ∧ c'.Writable ∧ c'.render = p.render := by
  refine ⟨fun c w => Catalog.parse_render w, fun t p read => ?_⟩
  have fit := Catalog.fits_of_parse read
  refine ⟨p.asWritten, ?_, Catalog.writable_asWritten fit, Catalog.render_asWritten fit⟩
  rw [← Catalog.render_asWritten fit]
  exact Catalog.parse_render (Catalog.writable_asWritten fit)

end Localize.Po
