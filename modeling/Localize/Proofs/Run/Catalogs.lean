import Localize.Run.Extract

/-! # Steps of a run that change nothing when they fail

A run is a computation over the project's disk that may fail. This module gives its monad
laws as equations on the pair a run answers (`run_bind`, `run_bind_ok`, `run_bind_error`), and
the two properties the catalog writer's steps have: a step that only reads (`ReadsOnly`), and a
step that leaves the disk as it found it when it fails (`KeepsOnError`).

Making a directory fails before it makes one. Writing a catalog checks its path, normalizes the
body in a scratch file outside the project and reads back, all without a change, and its last
step is the merge or the write of the new catalog; so a write keeps the disk when it fails as
soon as the backend's merge does (`CatalogWriter.keepsOnError_write`), which both backends' merges
do.
-/

namespace Localize.Run

open Files

variable {α β : Type} {d d' : Disk} {e : String}

/-! ## Running a step -/

@[simp] theorem run_get_bind {f : Disk → RunM α} :
    ((get : RunM Disk) >>= f).run.run d = (f d).run.run d := rfl

@[simp] theorem run_throw : (throw e : RunM α).run.run d = (.error e, d) := rfl

@[simp] theorem run_set (d₁ : Disk) : (set d₁ : RunM Unit).run.run d = (.ok (), d₁) := rfl

@[simp] theorem run_pure (a : α) : (pure a : RunM α).run.run d = (.ok a, d) := rfl

@[simp] theorem mapError_ok {ε ε' : Type} (f : ε → ε') (a : α) :
    (Except.ok a : Except ε α).mapError f = .ok a := rfl

@[simp] theorem mapError_error {ε ε' : Type} (f : ε → ε') (e : ε) :
    (Except.error e : Except ε α).mapError f = .error (f e) := rfl

theorem run_bind (x : RunM α) (f : α → RunM β) :
    (x >>= f).run.run d = match x.run.run d with
      | (.ok v, d₁) => (f v).run.run d₁
      | (.error e, d₁) => (.error e, d₁) := by
  simp only [ExceptT.run_bind, StateT.run_bind]
  rcases x.run.run d with ⟨_ | _, _⟩ <;> rfl

/-- A sequence that succeeded ran its first step to a value and the second from there. -/
theorem run_bind_ok {x : RunM α} {f : α → RunM β} {v : β}
    (h : (x >>= f).run.run d = (.ok v, d')) :
    ∃ a d₁, x.run.run d = (.ok a, d₁) ∧ (f a).run.run d₁ = (.ok v, d') := by
  rw [run_bind] at h
  split at h
  · rename_i a d₁ first
    exact ⟨a, d₁, first, h⟩
  · cases h

/-- A failed sequence failed in its first step, or in the second after the first succeeded. -/
theorem run_bind_error {x : RunM α} {f : α → RunM β} (h : (x >>= f).run.run d = (.error e, d')) :
    x.run.run d = (.error e, d') ∨
      ∃ v d₁, x.run.run d = (.ok v, d₁) ∧ (f v).run.run d₁ = (.error e, d') := by
  rw [run_bind] at h
  split at h
  · rename_i v d₁ first
    exact .inr ⟨v, d₁, first, h⟩
  · rename_i e' d₁ first
    cases h
    exact .inl first

/-! ## Steps that change nothing when they fail -/

/-- A step that leaves the disk as it found it when it fails. -/
def KeepsOnError (x : RunM α) : Prop := ∀ d e d', x.run.run d = (.error e, d') → d' = d

/-- A step that reads the disk and never changes it. -/
def ReadsOnly (x : RunM α) : Prop := ∀ d, (x.run.run d).2 = d

theorem readsOnly_pure (a : α) : ReadsOnly (pure a : RunM α) := fun _ => rfl

theorem readsOnly_throw (e : String) : ReadsOnly (throw e : RunM α) := fun _ => rfl

theorem ReadsOnly.bind {x : RunM α} {f : α → RunM β} (first : ReadsOnly x)
    (rest : ∀ v, ReadsOnly (f v)) : ReadsOnly (x >>= f) := by
  intro d
  rw [run_bind]
  have same := first d
  split
  · rename_i v d₁ ran
    rw [ran] at same
    rw [← same]
    exact rest v d₁
  · rename_i e d₁ ran
    rw [ran] at same
    exact same

/-- Reading, then a step that keeps the disk when it fails, keeps the disk when it fails. -/
theorem KeepsOnError.bind {x : RunM α} {f : α → RunM β} (first : ReadsOnly x)
    (rest : ∀ v, KeepsOnError (f v)) : KeepsOnError (x >>= f) := by
  intro d e d' failed
  have same := first d
  rcases run_bind_error failed with early | ⟨v, d₁, ran, late⟩
  · rw [early] at same
    exact same
  · rw [ran] at same
    subst same
    exact rest v d₁ e d' late

/-- A step followed by a result that cannot fail. -/
theorem KeepsOnError.bind_pure {x : RunM α} {g : α → β} (first : KeepsOnError x) :
    KeepsOnError (x >>= fun v => pure (g v)) := by
  intro d e d' failed
  rcases run_bind_error failed with early | ⟨v, d₁, ran, late⟩
  · exact first d e d' early
  · cases late

theorem keepsOnError_putFile (path content : String) : KeepsOnError (putFile path content) := by
  intro d e d' failed
  simp only [putFile, run_get_bind] at failed
  split at failed
  · cases failed
  · cases failed; rfl

theorem readsOnly_readCatalog (path text : String) : ReadsOnly (readCatalog path text) := by
  unfold readCatalog
  split
  · exact readsOnly_pure _
  · exact readsOnly_throw _

theorem keepsOnError_ensureDirectory (path : String) : KeepsOnError (ensureDirectory path) := by
  intro d e d' failed
  simp only [ensureDirectory, run_get_bind] at failed
  split at failed
  · cases failed
  · cases failed; rfl
  · split at failed
    · cases failed
    · cases failed; rfl
  · cases failed; rfl

theorem readsOnly_orFail (x : Except String α) : ReadsOnly (orFail x) := by
  cases x with
  | error e => exact readsOnly_throw e
  | ok a => exact readsOnly_pure a

theorem readsOnly_fileState (path : String) : ReadsOnly (fileState path) := by
  intro d
  simp only [fileState, run_get_bind]
  split <;> rfl

theorem readsOnly_catalogText (path : String) : ReadsOnly (catalogText path) := by
  intro d
  simp only [catalogText, run_get_bind]
  split <;> rfl

/-- The embedded merge reads both catalogs before its one write. -/
theorem keepsOnError_embedded_merge (scratch : Scratch) (destination path text : String) :
    KeepsOnError (CatalogBackend.embedded.merge scratch destination path text) := by
  refine KeepsOnError.bind (readsOnly_catalogText _) fun existing => ?_
  refine KeepsOnError.bind (readsOnly_readCatalog _ _) fun existing => ?_
  refine KeepsOnError.bind (readsOnly_orFail _) fun held => ?_
  exact KeepsOnError.bind (readsOnly_readCatalog _ _) fun incoming => keepsOnError_putFile _ _

/-- The gettext merge runs `msgmerge` before it writes its output over the destination. -/
theorem keepsOnError_gettext_merge (tools : GettextTools) (scratch : Scratch)
    (destination path text : String) :
    KeepsOnError (tools.backend.merge scratch destination path text) := by
  refine KeepsOnError.bind (readsOnly_catalogText _) fun existing => ?_
  exact KeepsOnError.bind (readsOnly_orFail _) fun merged => keepsOnError_putFile _ _

/-- A catalog write fails only before its last step, the merge or the write of the new catalog,
so it keeps the disk when it fails as soon as the backend's merge does. -/
theorem CatalogWriter.keepsOnError_write (writer : CatalogWriter)
    (merge_keeps : ∀ path draft text,
      KeepsOnError (writer.backend.merge writer.scratch path draft text))
    (path body : String) : KeepsOnError (writer.write path body) := by
  refine KeepsOnError.bind (readsOnly_fileState path) fun present => ?_
  refine KeepsOnError.bind (readsOnly_orFail _) fun ⟨draft, normalized⟩ => ?_
  cases present with
  | false =>
    exact KeepsOnError.bind (readsOnly_orFail _) fun text => (keepsOnError_putFile path text).bind_pure
  | true => exact (merge_keeps path draft normalized).bind_pure

theorem keepsOnError_writeCatalog (path body : String) : KeepsOnError (writeCatalog path body) :=
  CatalogWriter.embedded.keepsOnError_write (fun _ _ _ => keepsOnError_embedded_merge _ _ _ _)
    path body

end Localize.Run
