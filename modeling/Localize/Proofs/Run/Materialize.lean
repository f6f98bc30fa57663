import Localize.Proofs.Run.CatalogWrite
import Localize.Proofs.Store.Reading

/-! # What a failed `materialize` leaves behind

Writing the catalogs is a sequence of steps (`catalogTasks`): for each language in turn, make
its directory, then write the catalog of each domain. `materialize_eq_runTasks` says that
`materialize` runs exactly these steps in order, each checking its own path only when it is
reached: nothing is checked ahead, and nothing written is taken back.

A step that fails changes nothing (`keepsOnError_run`), as long as the writer's merge changes
nothing when it fails. So a failed run leaves the disk as the steps before the failing one made
it (`runTasks_error`), and a failed `materialize` keeps every catalog written before the step
that failed (`materialize_failure_leaves_earlier_catalogs`). With the languages `fr` and `de` and
a file where `de`'s directory should be, the French catalog is written before the run fails
(`materialize_keeps_french_catalog`).
-/

namespace Localize.Run

open Files Po

variable {d d' : Disk} {e : String}

/-! ## The steps of writing the catalogs -/

/-- One step of writing the catalogs: making a language's directory, or writing one catalog. -/
inductive CatalogTask where
  | directory (path : String)
  | catalog (language domain path body : String)

/-- The steps of writing the catalogs of a store for each language below `output`, in order:
each language's directory, then the catalog of each of its domains. -/
def catalogTasks (store : Store) (output : String) (languages : List String) :
    List CatalogTask :=
  languages.flatMap fun language =>
    let dir := Path.join output language
    .directory dir :: store.domains.map fun domain =>
      .catalog language domain (Path.join dir (domain ++ ".po")) (store.renderDomain domain language)

/-- Runs one step with a writer; a catalog step reports how its catalog was written. -/
def CatalogTask.run (writer : CatalogWriter) : CatalogTask → RunM (Option CatalogReport)
  | .directory path => do ensureDirectory path; return none
  | .catalog language domain path body => do
    let outcome ← writer.write path body
    return some ⟨language, domain, path, outcome⟩

/-- Runs steps in order, up to the first that fails. -/
def runTasks (writer : CatalogWriter) : List CatalogTask → RunM (List CatalogReport)
  | [] => pure []
  | task :: tasks => do
    let report ← task.run writer
    let reports ← runTasks writer tasks
    return report.toList ++ reports

section Writer

variable (writer : CatalogWriter)

theorem keepsOnError_run
    (merge_keeps : ∀ path draft text,
      KeepsOnError (writer.backend.merge writer.scratch path draft text))
    (task : CatalogTask) : KeepsOnError (task.run writer) := by
  cases task with
  | directory path => exact (keepsOnError_ensureDirectory path).bind_pure
  | catalog language domain path body =>
    exact (writer.keepsOnError_write merge_keeps path body).bind_pure

theorem runTasks_append (xs ys : List CatalogTask) :
    runTasks writer (xs ++ ys) =
      runTasks writer xs >>= fun first => (first ++ ·) <$> runTasks writer ys := by
  induction xs with
  | nil => simp [runTasks]
  | cons task tasks ih => simp [runTasks, ih]

theorem runTasks_domains (store : Store) (language dir : String) (domains : List String) :
    runTasks writer (domains.map fun domain =>
      .catalog language domain (Path.join dir (domain ++ ".po")) (store.renderDomain domain language)) =
    domains.mapM fun domain => do
      let path := Path.join dir (domain ++ ".po")
      let outcome ← writer.write path (store.renderDomain domain language)
      return ⟨language, domain, path, outcome⟩ := by
  induction domains with
  | nil => simp [runTasks]
  | cons domain domains ih => simp [runTasks, CatalogTask.run, ih]

/-- Writing the catalogs of some languages runs their steps in order. -/
theorem materialize_eq_runTasks (store : Store) (output : String) {languages : List String}
    (named : languages ≠ []) :
    materialize writer store output languages =
      runTasks writer (catalogTasks store output languages) := by
  have nonempty : languages.isEmpty = false := by simpa using named
  simp only [materialize, nonempty, catalogTasks, Bool.false_eq_true, if_false]
  clear named nonempty
  induction languages with
  | nil => simp [runTasks]
  | cons language languages ih =>
    rw [List.flatMapM_cons, List.flatMap_cons, ih]
    simp [runTasks_append, runTasks, CatalogTask.run, runTasks_domains]

theorem runTasks_cons_of_error {task : CatalogTask} {tasks : List CatalogTask}
    (failed : (task.run writer).run.run d = (.error e, d')) :
    (runTasks writer (task :: tasks)).run.run d = (.error e, d') := by
  simp only [runTasks, run_bind, failed]

theorem runTasks_cons_error_of_ok {task : CatalogTask} {tasks : List CatalogTask}
    {report : Option CatalogReport} {d₁ : Disk} (first : (task.run writer).run.run d = (.ok report, d₁))
    (rest : (runTasks writer tasks).run.run d₁ = (.error e, d')) :
    (runTasks writer (task :: tasks)).run.run d = (.error e, d') := by
  simp only [runTasks, run_bind, first, rest]

theorem run_directoryTask {path : String} (made : (ensureDirectory path).run.run d = (.ok (), d')) :
    ((CatalogTask.directory path).run writer).run.run d = (.ok none, d') := by
  simp only [CatalogTask.run, run_bind, made, run_pure]

theorem run_directoryTask_error {path : String}
    (failed : (ensureDirectory path).run.run d = (.error e, d')) :
    ((CatalogTask.directory path).run writer).run.run d = (.error e, d') := by
  simp only [CatalogTask.run, run_bind, failed]

theorem run_catalogTask {language domain path body : String} {outcome : Outcome}
    (written : (writer.write path body).run.run d = (.ok outcome, d')) :
    ((CatalogTask.catalog language domain path body).run writer).run.run d =
      (.ok (some ⟨language, domain, path, outcome⟩), d') := by
  simp only [CatalogTask.run, run_bind, written, run_pure]

/-- A failed run of steps leaves the disk as the steps before the failing one made it: they all
succeeded, and the failing step, run on what they left, fails and changes nothing. -/
theorem runTasks_error
    (merge_keeps : ∀ path draft text,
      KeepsOnError (writer.backend.merge writer.scratch path draft text))
    {tasks : List CatalogTask} (failed : (runTasks writer tasks).run.run d = (.error e, d')) :
    ∃ done task rest reports, tasks = done ++ task :: rest ∧
      (runTasks writer done).run.run d = (.ok reports, d') ∧
      (task.run writer).run.run d' = (.error e, d') := by
  induction tasks generalizing d with
  | nil => cases failed
  | cons task tasks ih =>
    rcases run_bind_error failed with early | ⟨report, d₁, ran, late⟩
    · -- the first step failed, on the disk it was given
      have unchanged := keepsOnError_run writer merge_keeps task d e d' early
      subst unchanged
      exact ⟨[], task, tasks, [], rfl, rfl, early⟩
    · rcases run_bind_error late with later | ⟨_, _, _, never⟩
      · obtain ⟨done, failing, rest, reports, split, ok, failing_run⟩ := ih later
        refine ⟨task :: done, failing, rest, report.toList ++ reports, by simp [split], ?_,
          failing_run⟩
        simp only [runTasks, run_bind, ran, ok]
        rfl
      · cases never

/-- **A failed `materialize` keeps the catalogs written before it failed.** For every writer
whose merge changes nothing when it fails (both backends' merges), every store, output
directory and non-empty language list: a failed run leaves the disk exactly as the steps before
the failing one made it, so every catalog of an earlier language, and of an earlier domain of
the same language, has been written (each with its report), and the step that failed, on that
disk, is the one whose error the run gives. -/
theorem materialize_failure_leaves_earlier_catalogs
    (merge_keeps : ∀ path draft text,
      KeepsOnError (writer.backend.merge writer.scratch path draft text))
    (store : Store) (output : String) {languages : List String} (named : languages ≠ [])
    (failed : (materialize writer store output languages).run.run d = (.error e, d')) :
    ∃ done task rest reports, catalogTasks store output languages = done ++ task :: rest ∧
      (runTasks writer done).run.run d = (.ok reports, d') ∧
      (task.run writer).run.run d' = (.error e, d') := by
  rw [materialize_eq_runTasks writer store output named] at failed
  exact runTasks_error writer merge_keeps failed

end Writer

/-! ## A run that fails at its second language -/

theorem ensureDirectory_of_file {path content : String} (file : d.stat path = .ok (.file content)) :
    (ensureDirectory path).run.run d =
      (.error ("path " ++ path ++ " already exists, but is not a directory"), d) := by
  simp only [ensureDirectory, run_get_bind, file]
  rfl

theorem ensureDirectory_of_missing {path : String} (missing : d.stat path = .error .notFound)
    (made : d.makeDirs path = .ok d') : (ensureDirectory path).run.run d = (.ok (), d') := by
  simp only [ensureDirectory, run_get_bind, missing, made]
  rfl

/-- A store with one message, in the default domain. -/
def greeting : Store := { occurrences := [{ position := "a.html:1", singular := "Hello" }] }

/-- The French catalog of `greeting`, read. -/
def greetingRead : Catalog :=
  { entries := headerEntry "fr" :: (greeting.blockOccurrences "default").map Occurrence.readEntry }

/-- A disk whose `locales/de` is a file. -/
def germanBlocked : Disk := ⟨"/r", ⟨[(["locales"], .dir), (["locales", "de"], .file "x")]⟩⟩

/-- `germanBlocked` with the French directory made. -/
def frenchMade : Disk :=
  ⟨"/r", ⟨[(["locales"], .dir), (["locales", "de"], .file "x"), (["locales", "fr"], .dir)]⟩⟩

/-- `frenchMade` with the French catalog of `greeting` written. -/
def frenchWritten : Disk :=
  { frenchMade with
    tree := frenchMade.tree.put ["locales", "fr", "default.po"] (.file greetingRead.normalize.render) }

/-- The error of a run stopped by the file at `locales/de`. -/
def germanBlockedError : String := "path locales/de already exists, but is not a directory"

theorem frenchMade_write :
    frenchMade.writeFile "locales/fr/default.po" greetingRead.normalize.render = .ok frenchWritten := by
  have located : frenchMade.locateNamed "locales/fr/default.po" = .ok ["locales", "fr", "default.po"] := by
    have found : (frenchMade.locateNamed "locales/fr/default.po").toOption =
        some ["locales", "fr", "default.po"] := by decide +kernel
    cases l : frenchMade.locateNamed "locales/fr/default.po" <;> simp_all [Except.toOption]
  exact Disk.writeFile_of_located located (by decide +kernel) (by decide +kernel)
    (by decide +kernel) (by simp)

theorem frenchWritten_stat :
    frenchWritten.stat "locales/fr/default.po" = .ok (.file greetingRead.normalize.render) :=
  Disk.stat_writeFile frenchMade_write

theorem catalogTasks_greeting : catalogTasks greeting "locales" ["fr", "de"] =
    [.directory "locales/fr",
      .catalog "fr" "default" "locales/fr/default.po" (greeting.renderDomain "default" "fr"),
      .directory "locales/de",
      .catalog "de" "default" (Path.join "locales/de" ("default" ++ ".po"))
        (greeting.renderDomain "default" "de")] := by
  have domains : greeting.domains = ["default"] := by decide +kernel
  have fr : Path.join "locales" "fr" = "locales/fr" := by decide +kernel
  have de : Path.join "locales" "de" = "locales/de" := by decide +kernel
  have catalog : Path.join "locales/fr" ("default" ++ ".po") = "locales/fr/default.po" := by
    decide +kernel
  simp only [catalogTasks, domains, fr, de, catalog, List.flatMap_cons, List.flatMap_nil,
    List.map_cons, List.map_nil, List.cons_append, List.nil_append, List.append_nil]

theorem materialize_germanBlocked :
    (materialize .embedded greeting "locales" ["fr", "de"]).run.run germanBlocked =
      (.error germanBlockedError, frenchWritten) := by
  rw [materialize_eq_runTasks _ _ _ (by simp), catalogTasks_greeting]
  -- the French directory is made, its catalog written, and the German directory is a file
  have french : (ensureDirectory "locales/fr").run.run germanBlocked = (.ok (), frenchMade) :=
    ensureDirectory_of_missing (by decide +kernel) (by decide +kernel)
  have written : (CatalogWriter.embedded.write "locales/fr/default.po"
      (greeting.renderDomain "default" "fr")).run.run frenchMade = (.ok .created, frenchWritten) :=
    run_writeCatalog_of_missing (by decide +kernel)
      (greeting.parse_renderDomain_plain "default" (by decide) (by decide) (by decide))
      frenchMade_write
  have german : (ensureDirectory "locales/de").run.run frenchWritten =
      (.error germanBlockedError, frenchWritten) := by
    have found : (frenchWritten.stat "locales/de").toOption = some (.file "x") := by decide +kernel
    cases stat : frenchWritten.stat "locales/de" with
    | error e => simp [stat, Except.toOption] at found
    | ok node =>
      simp only [stat, Except.toOption, Option.some.injEq] at found
      subst found
      exact ensureDirectory_of_file stat
  exact runTasks_cons_error_of_ok _ (run_directoryTask _ french)
    (runTasks_cons_error_of_ok _ (run_catalogTask _ written)
      (runTasks_cons_of_error _ (run_directoryTask_error _ german)))

/-- The run over `germanBlocked` for French and German fails at the German directory, after the
French catalog was written. -/
theorem materialize_failure_after_french :
    (∀ path draft text, KeepsOnError (CatalogWriter.embedded.backend.merge
        CatalogWriter.embedded.scratch path draft text)) ∧ ["fr", "de"] ≠ [] ∧
      (materialize .embedded greeting "locales" ["fr", "de"]).run.run germanBlocked =
        (.error germanBlockedError, frenchWritten) ∧
      ∃ done task rest reports, catalogTasks greeting "locales" ["fr", "de"] = done ++ task :: rest ∧
        (runTasks .embedded done).run.run germanBlocked = (.ok reports, frenchWritten) ∧
        (task.run .embedded).run.run frenchWritten = (.error germanBlockedError, frenchWritten) :=
  ⟨fun _ _ _ => keepsOnError_embedded_merge _ _ _ _, by simp, materialize_germanBlocked,
    materialize_failure_leaves_earlier_catalogs .embedded
      (fun _ _ _ => keepsOnError_embedded_merge _ _ _ _) greeting "locales" (by simp)
      materialize_germanBlocked⟩

/-- A failed run writes a catalog: for French and German, with a file where the German
directory should be, the run fails with that input error, and `locales/fr/default.po`, which was
not there, now is. -/
theorem materialize_keeps_french_catalog :
    (materialize .embedded greeting "locales" ["fr", "de"]).run.run germanBlocked =
        (.error germanBlockedError, frenchWritten) ∧
      germanBlocked.stat "locales/fr/default.po" = .error .notFound ∧
      frenchWritten.stat "locales/fr/default.po" = .ok (.file greetingRead.normalize.render) :=
  ⟨materialize_germanBlocked, by decide +kernel, frenchWritten_stat⟩

end Localize.Run
