import Localize.Proofs.Run.CatalogWrite
import Localize.Proofs.Store.Incoming

/-! # Writing a catalog twice

A catalog write that succeeded read its body and then either wrote the normalized catalog's
text where nothing was, or read the catalog there and wrote its merge with the normalized
catalog read back (`writeCatalog_succeeds`). The disk then holds that text at the path
(`Files.Disk.stat_writeFile`), so a second write of the same body reads it back, merges the same
incoming catalog into it and writes the text already there, which leaves the disk as it is
(`writeCatalog_writeCatalog`). A domain's text is such a body whenever its language, positions
and contexts hold no newline (`renderDomain_written_twice`).
-/

namespace Localize.Run

open Files Po

variable {d d₁ : Disk} {path body : String}

/-- **Writing a catalog twice changes nothing the second time**, for a body that reads and whose
normalized catalog fits and, written and read back, is incoming: whatever the first write did,
the second reads back what it wrote, merges the same incoming catalog into it, writes the same
text, and reports a merge. -/
theorem writeCatalog_writeCatalog {B : Catalog} (read : Catalog.parse body = .ok B)
    (fits : ∀ e ∈ B.normalize.entries, e.Fits) (incoming : B.normalize.asWritten.Incoming)
    {outcome : Outcome} (first : (writeCatalog path body).run.run d = (.ok outcome, d₁)) :
    (writeCatalog path body).run.run d₁ = (.ok .merged, d₁) := by
  obtain ⟨B', read', wrote⟩ := writeCatalog_succeeds first
  rw [read, Except.ok.injEq] at read'
  subst read'
  have back : Catalog.parse B.normalize.render = .ok B.normalize.asWritten :=
    Catalog.parse_render_of_fits fits
  rcases wrote with ⟨-, -, created⟩ | ⟨-, text, E, N, -, existing, readBack, merged⟩
  · -- the normalized text reads back as the incoming catalog, which merges into itself
    have again : d₁.writeFile path (B.normalize.asWritten.merge B.normalize.asWritten).render =
        .ok d₁ := by
      rw [Catalog.render_merge_self fits incoming]
      exact Disk.writeFile_writeFile created
    exact run_writeCatalog_of_file (Disk.stat_writeFile created) read back back again
  · -- the merge's text reads back as the merge as written, which a second merge keeps
    rw [back, Except.ok.injEq] at readBack
    subst readBack
    obtain ⟨reread, same⟩ := Catalog.render_merge_asWritten_merge (Catalog.fits_of_parse existing)
      (Catalog.fits_of_parse back) incoming
    have again : d₁.writeFile path
        ((E.merge B.normalize.asWritten).asWritten.merge B.normalize.asWritten).render = .ok d₁ := by
      rw [same]
      exact Disk.writeFile_writeFile merged
    exact run_writeCatalog_of_file (Disk.stat_writeFile merged) read reread back again

/-- **Writing a domain's catalog twice changes nothing the second time.** For every store,
domain, language and destination whose language, positions and contexts hold no newline, and
every disk on which writing the domain's text to the destination succeeds, writing the same text
again succeeds, reports a merge, and leaves the disk, the catalog's text included, as the first
write left it. -/
theorem renderDomain_written_twice (s : Store) (domain : String) {language : String}
    (plain : '\n' ∉ language.toList)
    (positions : ∀ o ∈ s.occurrencesOf domain, '\n' ∉ o.position.toList)
    (contexts : ∀ o ∈ s.occurrencesOf domain, '\n' ∉ o.context.toList) {outcome : Outcome}
    (first : (writeCatalog path (s.renderDomain domain language)).run.run d = (.ok outcome, d₁)) :
    (writeCatalog path (s.renderDomain domain language)).run.run d₁ = (.ok .merged, d₁) := by
  obtain ⟨B, read, fits, incoming⟩ := s.incoming_renderDomain domain plain positions contexts
  exact writeCatalog_writeCatalog read fits incoming first

/-- A store with one message found twice, once at a position holding a blank. -/
def helloTwice : Store :=
  { occurrences := [{ position := "a b.html:1", singular := "Hello" },
      { position := "c.html:2", singular := "Hello" }] }

/-- A disk with nothing on it. -/
def emptyDisk : Disk := ⟨"/r", {}⟩

/-- The catalog text of `helloTwice` for French, read. -/
def helloRead : Catalog :=
  { entries := headerEntry "fr" :: (helloTwice.blockOccurrences "default").map Occurrence.readEntry }

/-- The disk once the French catalog of `helloTwice` is written to it. -/
def helloWritten : Disk :=
  { emptyDisk with tree := emptyDisk.tree.put ["fr.po"] (.file helloRead.normalize.render) }

theorem emptyDisk_locateNamed : emptyDisk.locateNamed "fr.po" = .ok ["fr.po"] := by
  have found : (emptyDisk.locateNamed "fr.po").toOption = some ["fr.po"] := by decide +kernel
  cases located : emptyDisk.locateNamed "fr.po" <;> simp_all [Except.toOption]

theorem emptyDisk_stat : emptyDisk.stat "fr.po" = .error .notFound := by
  decide +kernel

theorem helloTwice_created :
    (writeCatalog "fr.po" (helloTwice.renderDomain "default" "fr")).run.run emptyDisk =
      (.ok .created, helloWritten) := by
  refine run_writeCatalog_of_missing emptyDisk_stat
    (helloTwice.parse_renderDomain_plain "default" (by decide) (by decide) (by decide)) ?_
  exact Disk.writeFile_of_located emptyDisk_locateNamed (by decide +kernel) (by decide +kernel)
    (by decide +kernel) (by simp)

/-- The French catalog of `helloTwice`, written to an empty disk and written again. -/
theorem helloTwice_written_twice :
    '\n' ∉ "fr".toList ∧
      (∀ o ∈ helloTwice.occurrencesOf "default", '\n' ∉ o.position.toList) ∧
      (∀ o ∈ helloTwice.occurrencesOf "default", '\n' ∉ o.context.toList) ∧
      (writeCatalog "fr.po" (helloTwice.renderDomain "default" "fr")).run.run emptyDisk =
        (.ok .created, helloWritten) ∧
      (writeCatalog "fr.po" (helloTwice.renderDomain "default" "fr")).run.run helloWritten =
        (.ok .merged, helloWritten) :=
  ⟨by decide, by decide, by decide, helloTwice_created,
    renderDomain_written_twice helloTwice "default" (by decide) (by decide) (by decide)
      helloTwice_created⟩

end Localize.Run
