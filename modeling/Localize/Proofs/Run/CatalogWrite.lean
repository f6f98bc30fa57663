import Localize.Proofs.Files.Writing
import Localize.Proofs.Run.Catalogs

/-! # Writing one catalog

A catalog write looks at its path, puts its body in a scratch file that the backend normalizes
in place, and then either writes the scratch file's text where nothing was, or has the backend
merge it into the file there. Each step before the last changes nothing, so a write that
succeeded did exactly one of these (`CatalogWriter.write_succeeds`), each of them succeeds when
its steps do (`CatalogWriter.run_write_of_missing`, `CatalogWriter.run_write_of_file`), and a
write that failed left the disk as it was. For every writer whose scratch files are reliable and
whose backend's merge changes nothing when it fails, this is
`CatalogWriter.write_creates_merges_or_keeps`.

With the embedded backend the normalized text is the body's catalog, normalized and printed
(`embedded_draft_eq_ok`), and the merge reads the catalog there and the normalized text back and
writes their merge (`run_embedded_merge_eq_ok`); so `writeCatalog_creates_merges_or_keeps` says
the same in terms of the catalogs read.
-/

namespace Localize.Run

open Files Po

variable {β : Type} {d d' d₁ : Disk} {path body : String}

/-! ## The steps of a write -/

theorem run_readCatalog_ok {text : String} {c : Catalog} (read : Catalog.parse text = .ok c)
    (place : String) : (readCatalog place text).run.run d = (.ok c, d) := by
  simp only [readCatalog, read, run_pure]

theorem run_putFile_ok {content : String} (written : d.writeFile path content = .ok d₁) :
    (putFile path content).run.run d = (.ok (), d₁) := by
  simp only [putFile, run_get_bind, written, run_set]

theorem run_putFile_error {content : String} {e : OsError}
    (failed : d.writeFile path content = .error e) :
    (putFile path content).run.run d =
      (.error ("could not create file '" ++ path ++ "': " ++ e.message), d) := by
  simp only [putFile, run_get_bind, failed, run_throw]

theorem run_orFail_bind {α : Type} {x : Except String α} {a : α} (checked : x = .ok a)
    (f : α → RunM β) : (orFail x >>= f).run.run d = (f a).run.run d := by
  subst checked
  rfl

/-- A read of catalog text that let the run go on read the text and changed nothing. -/
theorem run_readCatalog_bind_ok {place text : String} {f : Catalog → RunM β} {v : β}
    (ran : (readCatalog place text >>= f).run.run d = (.ok v, d')) :
    ∃ c, Catalog.parse text = .ok c ∧ (f c).run.run d = (.ok v, d') := by
  obtain ⟨c, d₀, read, rest⟩ := run_bind_ok ran
  cases parsed : Catalog.parse text with
  | error e =>
    simp only [readCatalog, parsed, run_throw] at read
    cases read
  | ok c' =>
    simp only [readCatalog, parsed, run_pure] at read
    cases read
    exact ⟨c, rfl, rest⟩

/-- A checked value that let the run go on was a value, and the run went on from it. -/
theorem run_orFail_bind_ok {α : Type} {x : Except String α} {f : α → RunM β} {v : β}
    (ran : (orFail x >>= f).run.run d = (.ok v, d')) :
    ∃ a, x = .ok a ∧ (f a).run.run d = (.ok v, d') := by
  cases x with
  | error e => cases ran
  | ok a => exact ⟨a, rfl, ran⟩

/-- A write that let the run go on wrote the file, and the run went on from the disk it left. -/
theorem run_putFile_bind_ok {content : String} {f : Unit → RunM β} {v : β}
    (ran : (putFile path content >>= f).run.run d = (.ok v, d')) :
    ∃ d₀, d.writeFile path content = .ok d₀ ∧ (f ()).run.run d₀ = (.ok v, d') := by
  obtain ⟨u, d₀, put, rest⟩ := run_bind_ok ran
  cases written : d.writeFile path content with
  | error e =>
    rw [run_putFile_error written] at put
    cases put
  | ok d₂ =>
    rw [run_putFile_ok written] at put
    cases put
    exact ⟨d₀, rfl, rest⟩

theorem run_fileState_file {content : String} (file : d.stat path = .ok (.file content)) :
    (fileState path).run.run d = (.ok true, d) := by
  simp only [fileState, run_get_bind, file, run_pure]

theorem run_fileState_missing (missing : d.stat path = .error .notFound) :
    (fileState path).run.run d = (.ok false, d) := by
  simp only [fileState, run_get_bind, missing, run_pure]

/-- A check of the path that let the run go on found a file there, or nothing. -/
theorem run_fileState_bind_ok {f : Bool → RunM β} {v : β}
    (ran : (fileState path >>= f).run.run d = (.ok v, d')) :
    ((∃ content, d.stat path = .ok (.file content)) ∧ (f true).run.run d = (.ok v, d')) ∨
      (d.stat path = .error .notFound ∧ (f false).run.run d = (.ok v, d')) := by
  obtain ⟨present, d₀, checked, rest⟩ := run_bind_ok ran
  simp only [fileState, run_get_bind] at checked
  -- what stands at the path decides the check
  cases stat_eq : d.stat path with
  | error e =>
    cases e with
    | notFound =>
      simp only [stat_eq, run_pure] at checked
      obtain ⟨rfl, rfl⟩ := checked
      exact .inr ⟨rfl, rest⟩
    | _ =>
      simp only [stat_eq, run_throw] at checked
      cases checked
  | ok node =>
    cases node with
    | dir =>
      simp only [stat_eq, run_throw] at checked
      cases checked
    | file content =>
      simp only [stat_eq, run_pure] at checked
      obtain ⟨rfl, rfl⟩ := checked
      exact .inl ⟨⟨content, rfl⟩, rest⟩

/-! ## The two ways a write succeeds, for every writer -/

namespace CatalogWriter

variable (writer : CatalogWriter)

/-- What a catalog write that succeeded did: its body was normalized in a scratch file into a
text `N`, and either nothing was at the path and the scratch file's text, read back, was written
there, or the path held a file and the backend merged `N` into it. -/
theorem write_succeeds {outcome : Outcome}
    (ran : (writer.write path body).run.run d = (.ok outcome, d₁)) :
    ∃ draft N, writer.draft body = .ok (draft, N) ∧
      ((outcome = .created ∧ d.stat path = .error .notFound ∧
          ∃ text, writer.scratch.read draft N = .ok text ∧ d.writeFile path text = .ok d₁) ∨
        (outcome = .merged ∧ (∃ content, d.stat path = .ok (.file content)) ∧
          (writer.backend.merge writer.scratch path draft N).run.run d = (.ok (), d₁))) := by
  rcases run_fileState_bind_ok ran with ⟨file, ran⟩ | ⟨missing, ran⟩
  · obtain ⟨⟨draft, N⟩, drafted, ran⟩ := run_orFail_bind_ok ran
    obtain ⟨u, d₂, merged, ran⟩ := run_bind_ok ran
    simp only [run_pure] at ran
    obtain ⟨rfl, rfl⟩ := ran
    exact ⟨draft, N, drafted, .inr ⟨rfl, file, merged⟩⟩
  · obtain ⟨⟨draft, N⟩, drafted, ran⟩ := run_orFail_bind_ok ran
    simp only [Bool.false_eq_true, ↓reduceIte] at ran
    obtain ⟨text, readBack, ran⟩ := run_orFail_bind_ok ran
    obtain ⟨d₂, written, ran⟩ := run_putFile_bind_ok ran
    simp only [run_pure] at ran
    obtain ⟨rfl, rfl⟩ := ran
    refine ⟨draft, N, drafted, .inl ⟨rfl, missing, text, ?_, written⟩⟩
    cases reads : writer.scratch.read draft N with
    | error e => simp [reads] at readBack
    | ok t => simpa [reads] using readBack

/-- Writing a body where nothing is, when the body normalizes and reads back, writes the text
read back and reports that the catalog was created. -/
theorem run_write_of_missing {draft N text : String} (missing : d.stat path = .error .notFound)
    (drafted : writer.draft body = .ok (draft, N)) (readBack : writer.scratch.read draft N = .ok text)
    (written : d.writeFile path text = .ok d₁) :
    (writer.write path body).run.run d = (.ok .created, d₁) := by
  simp only [write, run_bind, run_fileState_missing missing, drafted, orFail, run_pure,
    Bool.false_eq_true, ↓reduceIte, readBack, mapError_ok, run_putFile_ok written]

/-- Writing a body over a file, when the body normalizes and the backend's merge succeeds,
reports a merge. -/
theorem run_write_of_file {content draft N : String} (file : d.stat path = .ok (.file content))
    (drafted : writer.draft body = .ok (draft, N))
    (merged : (writer.backend.merge writer.scratch path draft N).run.run d = (.ok (), d₁)) :
    (writer.write path body).run.run d = (.ok .merged, d₁) := by
  simp only [write, run_bind, run_fileState_file file, drafted, orFail, run_pure, ↓reduceIte,
    merged]

/-- With a reliable scratch file, drafting a body answers the fresh file and the backend's
normalized text. -/
theorem draft_eq_ok {draft : String} (reliable : writer.scratch.Reliable)
    (made : writer.scratch.create = .ok draft) {p : String × String} :
    writer.draft body = .ok p ↔
      p.1 = draft ∧ writer.backend.normalize writer.scratch draft body = .ok p.2 := by
  obtain ⟨path', N'⟩ := p
  cases normalized : writer.backend.normalize writer.scratch draft body <;>
    simp [CatalogWriter.draft, made, reliable.writes, normalized, bind,
      Except.bind, pure, Except.pure, eq_comm]

/-- **Every catalog write creates, merges, or leaves the disk as it was**, for a writer whose
scratch files are reliable and whose backend's merge changes nothing when it fails. It reports
a created catalog exactly when nothing was at the path, the backend normalized the body in the
scratch file, and writing that text to the path succeeds; it reports a merge exactly when a file
was at the path, the body normalized, and the backend's merge succeeded. -/
theorem write_creates_merges_or_keeps {draft : String} (reliable : writer.scratch.Reliable)
    (made : writer.scratch.create = .ok draft)
    (merge_keeps : ∀ p q t, KeepsOnError (writer.backend.merge writer.scratch p q t))
    (path body : String) (d d₁ : Disk) :
    ((writer.write path body).run.run d = (.ok .created, d₁) ↔
      d.stat path = .error .notFound ∧ ∃ N, writer.backend.normalize writer.scratch draft body = .ok N ∧
        d.writeFile path N = .ok d₁) ∧
    ((writer.write path body).run.run d = (.ok .merged, d₁) ↔
      (∃ content, d.stat path = .ok (.file content)) ∧
        ∃ N, writer.backend.normalize writer.scratch draft body = .ok N ∧
          (writer.backend.merge writer.scratch path draft N).run.run d = (.ok (), d₁)) ∧
    ∀ e, (writer.write path body).run.run d = (.error e, d₁) → d₁ = d := by
  refine ⟨⟨fun ran => ?_, ?_⟩, ⟨fun ran => ?_, ?_⟩,
    fun e failed => writer.keepsOnError_write merge_keeps path body d e d₁ failed⟩
  · obtain ⟨draft', N, drafted, ⟨-, missing, text, readBack, written⟩ | ⟨different, -⟩⟩ :=
      writer.write_succeeds ran
    · obtain ⟨rfl, normalized⟩ := (writer.draft_eq_ok reliable made).mp drafted
      rw [reliable.reads, Except.ok.injEq] at readBack
      subst readBack
      exact ⟨missing, N, normalized, written⟩
    · cases different
  · rintro ⟨missing, N, normalized, written⟩
    exact writer.run_write_of_missing missing
      ((writer.draft_eq_ok reliable made).mpr ⟨rfl, normalized⟩) (reliable.reads draft N) written
  · obtain ⟨draft', N, drafted, ⟨different, -⟩ | ⟨-, file, merged⟩⟩ := writer.write_succeeds ran
    · cases different
    · obtain ⟨rfl, normalized⟩ := (writer.draft_eq_ok reliable made).mp drafted
      exact ⟨file, N, normalized, merged⟩
  · rintro ⟨⟨content, file⟩, N, normalized, merged⟩
    exact writer.run_write_of_file file
      ((writer.draft_eq_ok reliable made).mpr ⟨rfl, normalized⟩) merged

end CatalogWriter

/-! ## The embedded backend -/

/-- The embedded backend normalizes a body into the printed text of its catalog, normalized. -/
theorem embedded_normalize_eq_ok {N : String} :
    CatalogBackend.embedded.normalize .system draftPath body = .ok N ↔
      ∃ B, Catalog.parse body = .ok B ∧ N = B.normalize.render := by
  cases parsed : Catalog.parse body <;>
    simp [CatalogBackend.embedded, Scratch.system, parsed, bind, Except.bind,
      pure, Except.pure, eq_comm]

theorem run_putFile_eq_ok {content : String} :
    (putFile path content).run.run d = (.ok (), d₁) ↔ d.writeFile path content = .ok d₁ := by
  constructor
  · intro put
    cases written : d.writeFile path content with
    | error e => rw [run_putFile_error written] at put; cases put
    | ok d₂ => rw [run_putFile_ok written] at put; cases put; rfl
  · exact run_putFile_ok

theorem run_catalogText_ok {text : String} (read : d.readFile path = .ok text) :
    (catalogText path).run.run d = (.ok text, d) := by
  simp only [catalogText, run_get_bind, read, run_pure]

/-- A read of a catalog file that let the run go on read the file and changed nothing. -/
theorem run_catalogText_bind_ok {f : String → RunM β} {v : β}
    (ran : (catalogText path >>= f).run.run d = (.ok v, d')) :
    ∃ text, d.readFile path = .ok text ∧ (f text).run.run d = (.ok v, d') := by
  obtain ⟨text, d₀, read, rest⟩ := run_bind_ok ran
  cases readFile : d.readFile path with
  | error e =>
    simp only [catalogText, run_get_bind, readFile, run_throw] at read
    cases read
  | ok t =>
    rw [run_catalogText_ok readFile, Prod.mk.injEq, Except.ok.injEq] at read
    obtain ⟨rfl, rfl⟩ := read
    exact ⟨t, rfl, rest⟩

/-- The embedded merge succeeds exactly when the catalog at the destination and the normalized
text both read and their merge's text is written. -/
theorem run_embedded_merge_eq_ok {destination text : String} :
    (CatalogBackend.embedded.merge .system destination draftPath text).run.run d = (.ok (), d₁) ↔
      ∃ D E N, d.readFile destination = .ok D ∧ Catalog.parse D = .ok E ∧
        Catalog.parse text = .ok N ∧ d.writeFile destination (E.merge N).render = .ok d₁ := by
  have held : (Scratch.system.read draftPath text).mapError
      (fun cause => "Failed to read catalog: " ++ draftPath ++ ": " ++ cause) = .ok text := rfl
  simp only [CatalogBackend.embedded]
  constructor
  · intro ran
    obtain ⟨D, readD, ran⟩ := run_catalogText_bind_ok ran
    obtain ⟨E, existing, ran⟩ := run_readCatalog_bind_ok ran
    rw [run_orFail_bind held] at ran
    obtain ⟨N, incoming, ran⟩ := run_readCatalog_bind_ok ran
    exact ⟨D, E, N, readD, existing, incoming, run_putFile_eq_ok.mp ran⟩
  · rintro ⟨D, E, N, readD, existing, incoming, written⟩
    simp only [run_bind, run_catalogText_ok readD, run_readCatalog_ok existing]
    simp only [← run_bind, run_orFail_bind held]
    simp only [run_bind, run_readCatalog_ok incoming, run_putFile_ok written]

theorem embedded_draft_eq_ok {draft N : String} :
    CatalogWriter.embedded.draft body = .ok (draft, N) ↔
      draft = draftPath ∧ ∃ B, Catalog.parse body = .ok B ∧ N = B.normalize.render := by
  cases parsed : Catalog.parse body <;>
    simp [CatalogWriter.draft, CatalogWriter.embedded, CatalogBackend.embedded, Scratch.system,
      parsed, bind, Except.bind, pure, Except.pure, eq_comm]

/-! ## Writing a catalog with the embedded backend -/

/-- What a catalog write that succeeded did: its body read as `B`, and either nothing was at
the path and the normalized catalog's text was written there, or the path held a file whose
text read as `E`, the normalized text read back as `N`, and the text of the merge of `E` with
`N` was written. -/
theorem writeCatalog_succeeds {outcome : Outcome}
    (ran : (writeCatalog path body).run.run d = (.ok outcome, d₁)) :
    ∃ B, Catalog.parse body = .ok B ∧
      ((outcome = .created ∧ d.stat path = .error .notFound ∧
          d.writeFile path B.normalize.render = .ok d₁) ∨
        (outcome = .merged ∧ ∃ D E N, d.stat path = .ok (.file D) ∧ Catalog.parse D = .ok E ∧
          Catalog.parse B.normalize.render = .ok N ∧
          d.writeFile path (E.merge N).render = .ok d₁)) := by
  obtain ⟨draft, N, drafted, wrote⟩ := CatalogWriter.embedded.write_succeeds ran
  obtain ⟨rfl, B, read, rfl⟩ := embedded_draft_eq_ok.mp drafted
  refine ⟨B, read, ?_⟩
  rcases wrote with ⟨created, missing, text, readBack, written⟩ | ⟨merged, ⟨D, file⟩, merge⟩
  · have same : text = B.normalize.render := (Except.ok.inj readBack).symm
    subst same
    exact .inl ⟨created, missing, written⟩
  · obtain ⟨D', E, N, readD, existing, incoming, written⟩ := run_embedded_merge_eq_ok.mp merge
    rw [Disk.readFile_of_stat file, Except.ok.injEq] at readD
    subst readD
    exact .inr ⟨merged, D, E, N, file, existing, incoming, written⟩

/-- Writing a body over a file whose text reads, when the body and its normalized text read,
writes the merge and reports it. -/
theorem run_writeCatalog_of_file {content : String} {B E N : Catalog}
    (file : d.stat path = .ok (.file content)) (read : Catalog.parse body = .ok B)
    (existing : Catalog.parse content = .ok E)
    (incoming : Catalog.parse B.normalize.render = .ok N)
    (written : d.writeFile path (E.merge N).render = .ok d₁) :
    (writeCatalog path body).run.run d = (.ok .merged, d₁) :=
  CatalogWriter.embedded.run_write_of_file file (embedded_draft_eq_ok.mpr ⟨rfl, B, read, rfl⟩)
    (run_embedded_merge_eq_ok.mpr
      ⟨content, E, N, Disk.readFile_of_stat file, existing, incoming, written⟩)

/-- Writing a body where nothing is, when the body reads, writes its normalized text and reports
that the catalog was created. -/
theorem run_writeCatalog_of_missing {B : Catalog} (missing : d.stat path = .error .notFound)
    (read : Catalog.parse body = .ok B) (written : d.writeFile path B.normalize.render = .ok d₁) :
    (writeCatalog path body).run.run d = (.ok .created, d₁) :=
  CatalogWriter.embedded.run_write_of_missing missing
    (embedded_draft_eq_ok.mpr ⟨rfl, B, read, rfl⟩) rfl written

/-- **A catalog write creates, merges, or leaves the disk as it was.** It reports a created
catalog exactly when nothing was at the path, the body reads, and writing the normalized
catalog's text there succeeds from this disk to the one it ends with. It reports a merge exactly
when the path held a file whose text reads, the body and its normalized text read back, and
writing the text of their merge there succeeds. Every other run fails, and a failed run leaves
the whole disk, the path included, as it was. -/
theorem writeCatalog_creates_merges_or_keeps (path body : String) (d d₁ : Disk) :
    ((writeCatalog path body).run.run d = (.ok .created, d₁) ↔
      d.stat path = .error .notFound ∧
        ∃ B, Catalog.parse body = .ok B ∧ d.writeFile path B.normalize.render = .ok d₁) ∧
    ((writeCatalog path body).run.run d = (.ok .merged, d₁) ↔
      ∃ D B E N, d.stat path = .ok (.file D) ∧ Catalog.parse body = .ok B ∧
        Catalog.parse D = .ok E ∧ Catalog.parse B.normalize.render = .ok N ∧
        d.writeFile path (E.merge N).render = .ok d₁) ∧
    ∀ e, (writeCatalog path body).run.run d = (.error e, d₁) → d₁ = d := by
  refine ⟨⟨fun ran => ?_, ?_⟩, ⟨fun ran => ?_, ?_⟩,
    fun e failed => keepsOnError_writeCatalog path body d e d₁ failed⟩
  · obtain ⟨B, read, ⟨-, missing, written⟩ | ⟨different, -⟩⟩ := writeCatalog_succeeds ran
    · exact ⟨missing, B, read, written⟩
    · cases different
  · rintro ⟨missing, B, read, written⟩
    exact run_writeCatalog_of_missing missing read written
  · obtain ⟨B, read, ⟨different, -⟩ | ⟨-, D, E, N, file, existing, incoming, written⟩⟩ :=
      writeCatalog_succeeds ran
    · cases different
    · exact ⟨D, B, E, N, file, read, existing, incoming, written⟩
  · rintro ⟨D, B, E, N, file, read, existing, incoming, written⟩
    exact run_writeCatalog_of_file file read existing incoming written

end Localize.Run
