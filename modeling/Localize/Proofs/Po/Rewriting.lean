import Localize.Proofs.Po.Invariants

/-! # Writing a catalog a second time

A catalog is written by normalizing the text it is built from, then merging what the normalized
catalog reads back as into the catalog already there, or writing the normalized catalog out
where there is none. When the normalized catalog opens with its header and the rest are fresh
messages (`Entry.Fresh`: fitting, live, without previous-message lines, with two strings at
least when plural) of distinct identities, what it reads back as is an incoming catalog
(`Catalog.incoming_asWritten`).

Writing the same text again then changes nothing. The text of a merge reads back as the merge as
written, which a second merge with the same incoming catalog keeps
(`Catalog.render_merge_asWritten_merge`); a catalog written where there was none reads back as
the incoming catalog itself, which merges into itself unchanged (`Catalog.render_merge_self`).
-/

namespace Localize.Po

/-- A message ready to be merged in: it fits, it is live, it has no previous-message lines, and
a plural message has two strings at least. -/
structure Entry.Fresh (e : Entry) : Prop where
  fits : e.Fits
  live : e.obsolete = false
  previous : e.previous = []
  plural : e.isPlural = true → 2 ≤ e.msgstr.length

/-- Taking in a fresh duplicate keeps a message fresh. -/
theorem Entry.Fresh.absorb {t d : Entry} (kept : t.Fresh) (dup : d.Fresh) :
    (t.absorb d).Fresh where
  fits := kept.fits.absorb dup.fits
  live := by rw [Entry.obsolete_absorb, kept.live]
  previous := by rw [Entry.previous_absorb, kept.previous]
  plural := Entry.absorb_plural d kept.plural

theorem Entry.asWritten_asWritten (e : Entry) : e.asWritten.asWritten = e.asWritten := by
  obtain ⟨comments, extracted, references, flags, previous, msgctxt, msgid, plural, msgstr,
    obsolete⟩ := e
  cases obsolete <;> cases plural <;>
    simp [Entry.asWritten, Entry.isPlural, Entry.firstString]

/-- A live entry with a single string is written as it is. -/
theorem Entry.asWritten_eq_self {e : Entry} (live : e.obsolete = false)
    (single : e.isPlural = false) (one : e.msgstr = [e.firstString]) : e.asWritten = e := by
  obtain ⟨comments, extracted, references, flags, previous, msgctxt, msgid, plural, msgstr,
    obsolete⟩ := e
  simp only at live one
  subst live
  simp only [Entry.asWritten, single, Bool.false_eq_true, if_false, ← one]

/-- A fresh message is written with its strings, its previous-message lines and its mark. -/
theorem Entry.Fresh.asWritten {e : Entry} (fresh : e.Fresh) : e.asWritten.Fresh where
  fits := fresh.fits.writable_asWritten.toFits
  live := fresh.live
  previous := fresh.previous
  plural := fun many => by
    have plural : e.isPlural = true := many
    have strings : e.asWritten.msgstr = e.msgstr := by simp [Entry.asWritten, plural]
    rw [strings]
    exact fresh.plural plural

/-- Among live messages, distinct identities are distinct keys. -/
theorem Deduped.keys {ks : List Entry} (kept : Deduped Entry.Fresh ks) :
    (ks.map Entry.key).Nodup := by
  refine List.pairwise_map.mpr ((List.pairwise_map.mp kept.distinct).imp_of_mem ?_)
  intro a b first second distinct same
  apply distinct
  simp only [Entry.dedupKey, (kept.message a first).2.live, (kept.message b second).2.live]
  exact Prod.ext rfl same

/-- **A normalized catalog, as written, is incoming**: its header, written as it is and kept by
dating it with its own creation date, followed by fresh messages of distinct identities. -/
theorem Catalog.incoming_asWritten {hd : Entry} {ks : List Entry} (header : hd.isHeader = true)
    (written : hd.asWritten = hd) (dated : mergedHeader (some hd) (some hd) = some hd)
    (kept : Deduped Entry.Fresh ks) : ({ entries := hd :: ks } : Catalog).asWritten.Incoming := by
  have later : ∀ e ∈ (hd :: ks).drop 1, e.isHeader = false := fun e member =>
    (kept.message e (by simpa using member)).1
  have entries : ({ entries := hd :: ks } : Catalog).asWritten.entries =
      hd :: ks.map Entry.asWritten := by
    rw [Catalog.asWritten, Catalog.written_eq_of_drop later, List.map_cons, written]
  -- every message but the header is live, and written it stays so
  have messages : ∀ m ∈ ks.map Entry.asWritten, m.isHeader = false ∧ m.obsolete = false := by
    intro m member
    obtain ⟨k, inside, rfl⟩ := List.mem_map.mp member
    exact ⟨(kept.message k inside).1, (kept.message k inside).2.live⟩
  have header? : ({ entries := hd :: ks } : Catalog).asWritten.header? = some hd := by
    simp [Catalog.header?, entries, header]
  have filtered :
      ({ entries := hd :: ks } : Catalog).asWritten.messages = ks.map Entry.asWritten := by
    rw [Catalog.messages, entries, List.filter_cons_of_neg (by simp [header]),
      List.filter_eq_self.mpr fun m member => by simp [messages m member]]
  constructor
  case entries =>
    rw [header?, filtered, entries]
    rfl
  case keys =>
    rw [filtered, List.map_map]
    exact kept.keys
  case written =>
    intro e member
    rw [entries] at member
    rcases List.mem_cons.mp member with rfl | message
    · exact written
    · obtain ⟨k, _, rfl⟩ := List.mem_map.mp message
      exact Entry.asWritten_asWritten k
  case previous =>
    intro n member _
    rw [filtered] at member
    obtain ⟨k, inside, rfl⟩ := List.mem_map.mp member
    exact (kept.message k inside).2.asWritten.previous
  case plural =>
    intro n member
    rw [filtered] at member
    obtain ⟨k, inside, rfl⟩ := List.mem_map.mp member
    exact (kept.message k inside).2.asWritten.plural
  case header =>
    intro h found
    rw [header?, Option.mem_some_iff] at found
    rw [← found]
    exact dated

/-- A catalog whose entries fit reads back from its text as it is written. -/
theorem Catalog.parse_render_of_fits {c : Catalog} (fit : ∀ e ∈ c.entries, e.Fits) :
    Catalog.parse c.render = .ok c.asWritten := by
  rw [← Catalog.render_asWritten fit]
  exact Catalog.parse_render (Catalog.writable_asWritten fit)

/-- **Merging again what a merge wrote writes the same text.** For an incoming catalog `I` and
catalogs whose entries fit, the text of the merge of `E` with `I` reads back as the merge as
written, and merging `I` into that gives the same text. -/
theorem Catalog.render_merge_asWritten_merge {E I : Catalog}
    (existing : ∀ e ∈ E.entries, e.Fits) (fits : ∀ e ∈ I.entries, e.Fits) (incoming : I.Incoming) :
    Catalog.parse (E.merge I).render = .ok (E.merge I).asWritten ∧
      ((E.merge I).asWritten.merge I).render = (E.merge I).render := by
  have fit := Catalog.fits_merge existing fits
  refine ⟨Catalog.parse_render_of_fits fit, ?_⟩
  rw [Catalog.merge_asWritten_merge E I incoming, Catalog.render_asWritten fit]

/-- A catalog whose written form is incoming, merged into it, writes its own text. -/
theorem Catalog.render_merge_self {c : Catalog} (fit : ∀ e ∈ c.entries, e.Fits)
    (incoming : c.asWritten.Incoming) : (c.asWritten.merge c.asWritten).render = c.render := by
  rw [incoming.merge_self, Catalog.render_asWritten fit]

end Localize.Po
