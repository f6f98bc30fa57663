import Localize.Files.Disk

/-! # What writing a file leaves on disk

A write puts the file at the names its path resolves to and leaves every other entry as it was
(`Tree.find?_put`). The names a path resolves to do not change: resolving steps back only out of
directories, and the written path was not a directory, so no directory that resolving looked at
is touched (`Tree.resolve_put`). So after a write the path holds the file with the text written
(`Disk.stat_writeFile`, `Disk.readFile_writeFile`), and writing the same text there again
leaves the disk as it is (`Disk.writeFile_writeFile`).
-/

namespace Localize.Files

/-! ## Checks in the monad of errors -/

/-- A chain of checks that succeeds ran its first check to a value. -/
theorem bind_eq_ok {α β ε : Type} {x : Except ε α} {f : α → Except ε β} {b : β} :
    x >>= f = .ok b ↔ ∃ a, x = .ok a ∧ f a = .ok b := by
  cases x <;> simp [bind, Except.bind]

theorem forM_eq_ok {α ε : Type} {f : α → Except ε PUnit} :
    ∀ {l : List α}, l.forM f = .ok () ↔ ∀ a ∈ l, f a = .ok ()
  | [] => by simp [List.forM_nil, pure, Except.pure]
  | a :: l => by
    rw [List.forM.eq_2, List.forall_mem_cons, ← forM_eq_ok]
    cases f a <;> simp [bind, Except.bind]

theorem forM_congr_of_mem {m : Type → Type} [Monad m] {α : Type} {f g : α → m PUnit} :
    ∀ {l : List α}, (∀ a ∈ l, f a = g a) → l.forM f = l.forM g
  | [], _ => rfl
  | a :: l, same => by
    rw [List.forM.eq_2, List.forM.eq_2, same a List.mem_cons_self,
      forM_congr_of_mem fun b member => same b (List.mem_cons_of_mem a member)]

namespace Tree

variable {t : Tree} {p q : List String} {n : Node}

/-! ## A tree after a put -/

/-- What a tree holds after a put: the node put at its path, and what was there elsewhere. -/
theorem find?_put (t : Tree) (p : List String) (n : Node) (q : List String) :
    (t.put p n).find? q = if q.isEmpty then some .dir else if q = p then some n else t.find? q := by
  unfold find? put
  dsimp only
  split
  · rfl
  · rw [List.find?_append, List.find?_filter]
    split
    · rename_i same
      subst same
      have none : t.entries.find? (fun _ => false) = none :=
        List.find?_eq_none.mpr fun _ _ => Bool.false_ne_true
      simp [none]
    · rename_i other
      have absent : [(p, n)].find? (fun y => y.1 == q) = none := by simp [Ne.symm other]
      rw [absent, Option.or_none]
      -- an entry at `q` is not at `p`, so the filter does not change what is found
      congr 2
      funext y
      by_cases found : y.1 = q <;> simp [found, other]

theorem find?_put_of_ne (t : Tree) (n : Node) (other : q ≠ p) : (t.put p n).find? q = t.find? q := by
  rw [find?_put, if_neg other]
  split
  · rename_i empty
    simp [find?, empty]
  · rfl

theorem checkParents_eq_ok : t.checkParents q = .ok () ↔
    ∀ i < q.length, t.find? (q.take i) = some .dir := by
  unfold checkParents
  rw [forM_eq_ok]
  refine forall_congr' fun i => ?_
  rw [List.mem_range]
  refine imp_congr_right fun _ => ?_
  cases t.find? (q.take i) with
  | none => simp
  | some node => cases node <;> simp

theorem checkParents_put (outside : ∀ i < q.length, q.take i ≠ p) :
    (t.put p n).checkParents q = t.checkParents q := by
  unfold checkParents
  refine forM_congr_of_mem fun i member => ?_
  rw [find?_put_of_ne t n (outside i (List.mem_range.mp member))]

/-- Looking at a path that does not pass through the path put sees the tree as it was. -/
theorem stat_put_outside (outside : ¬p <+: q) (asDir : Bool) :
    (t.put p n).stat q asDir = t.stat q asDir := by
  have parents : ∀ i < q.length, q.take i ≠ p := fun i _ same =>
    outside (same ▸ List.take_prefix i q)
  have itself : q ≠ p := fun same => outside (same ▸ List.prefix_refl q)
  unfold stat
  rw [checkParents_put parents, find?_put_of_ne t n itself]

/-- A path found to be a directory passes only through directories. -/
theorem find?_of_stat_dir {x : Node} (found : t.stat q true = .ok x) (within : p <+: q) :
    t.find? p = some .dir := by
  unfold stat at found
  obtain ⟨u, parents, found⟩ := bind_eq_ok.mp found
  by_cases same : p = q
  · -- the path itself: asked as a directory, only a directory is found
    subst same
    split at found
    · cases found
    · simp at found
    · assumption
  · -- a proper prefix: one of the parents checked
    have shorter : p.length < q.length := by
      have := within.length_le
      refine Nat.lt_of_le_of_ne this fun equal => same ?_
      exact within.eq_of_length equal
    have ok := checkParents_eq_ok.mp parents p.length shorter
    rwa [← List.prefix_iff_eq_take.mp within] at ok

/-- **Resolving a path is unchanged by a put at a path that was no directory**: resolving looks
only at directories it steps back out of, and no such directory is the path put. -/
theorem resolve_put (notDir : t.find? p ≠ some .dir) (n : Node) :
    ∀ {names reached out : List String}, t.resolve reached names = .ok out →
      (t.put p n).resolve reached names = .ok out
  | [], _, _, found => found
  | name :: rest, reached, out, found => by
    unfold resolve at found ⊢
    split at found
    · rename_i back
      rw [if_pos back]
      split at found
      · rename_i x looked
        -- the directory stepped out of is not below the path put
        have outside : ¬p <+: reached := fun within =>
          notDir (find?_of_stat_dir looked within)
        rw [stat_put_outside outside, looked]
        simp only
        split at found
        · cases found
        · rename_i nonempty
          rw [if_neg nonempty]
          exact resolve_put notDir n found
      · cases found
    · rename_i forward
      rw [if_neg forward]
      exact resolve_put notDir n found

theorem put_put (t : Tree) (p : List String) (n : Node) : (t.put p n).put p n = t.put p n := by
  simp [put, List.filter_filter]

end Tree

/-! ## A disk after a write -/

namespace Disk

variable {d d₁ : Disk} {path content : String}

/-- A path that holds a file reads as the file's text: both look the path up the same way. -/
theorem readFile_of_stat (file : d.stat path = .ok (.file content)) :
    d.readFile path = .ok content := by
  unfold stat at file
  obtain ⟨names, located, file⟩ := bind_eq_ok.mp file
  simp only [readFile, located, Tree.readFile, file, bind, Except.bind]

theorem locate_put {names : List String} (notDir : d.tree.find? names ≠ some .dir) (n : Node)
    {out : List String} (found : d.locate path = .ok out) :
    ({ d with tree := d.tree.put names n } : Disk).locate path = .ok out := by
  unfold locate at found ⊢
  -- the names a path stands for depend on the root only, not on the tree
  by_cases absolute : Path.isAbsolute path = true
  · by_cases within : (Path.names d.root).isPrefixOf (Path.names path) = true
    · simp only [absolute, within, if_true] at found ⊢
      exact Tree.resolve_put notDir n found
    · simp only [absolute, within, if_true, Bool.false_eq_true, if_false] at found
      cases found
  · simp only [absolute, Bool.false_eq_true, if_false] at found ⊢
    exact Tree.resolve_put notDir n found

theorem locateNamed_put {names : List String} (notDir : d.tree.find? names ≠ some .dir)
    (n : Node) {out : List String} (found : d.locateNamed path = .ok out) :
    ({ d with tree := d.tree.put names n } : Disk).locateNamed path = .ok out := by
  unfold locateNamed at found ⊢
  split at found
  · cases found
  · rename_i nonempty
    rw [if_neg nonempty]
    exact locate_put notDir n found

/-- What a write did: the path resolved to some names, not written as a directory's, whose
parents are directories and which held no directory; the file is put there. -/
theorem writeFile_eq_ok (written : d.writeFile path content = .ok d₁) :
    ∃ names, d.locateNamed path = .ok names ∧ Path.endsAsDirectory path = false ∧
      d.tree.checkParents names = .ok () ∧ d.tree.find? names ≠ some .dir ∧ names ≠ [] ∧
      d₁ = { d with tree := d.tree.put names (.file content) } := by
  unfold writeFile at written
  obtain ⟨names, located, written⟩ := bind_eq_ok.mp written
  split at written
  · cases written
  · rename_i plain
    obtain ⟨tree, built, written⟩ := bind_eq_ok.mp written
    simp only [pure, Except.pure, Except.ok.injEq] at written
    subst written
    unfold Tree.writeFile at built
    obtain ⟨u, parents, built⟩ := bind_eq_ok.mp built
    -- the tree refuses a directory and the empty path, and otherwise puts the file
    split at built
    · cases built
    · rename_i notDir
      split at built
      · cases built
      · rename_i named
        cases built
        exact ⟨names, located, by simpa using plain, parents, notDir, by simpa using named, rfl⟩

/-- A write to a path that resolves to names whose parents are directories and which hold no
directory puts the file there. -/
theorem writeFile_of_located {names : List String} (located : d.locateNamed path = .ok names)
    (plain : Path.endsAsDirectory path = false) (parents : d.tree.checkParents names = .ok ())
    (notDir : d.tree.find? names ≠ some .dir) (named : names ≠ []) :
    d.writeFile path content = .ok { d with tree := d.tree.put names (.file content) } := by
  have nonempty : names.isEmpty = false := by simpa using named
  unfold writeFile Tree.writeFile
  cases found : d.tree.find? names with
  | none => simp [located, plain, parents, nonempty, bind, Except.bind, pure, Except.pure]
  | some node =>
    cases node with
    | dir => exact absurd found notDir
    | file c =>
      simp [located, plain, parents, found, nonempty, bind, Except.bind, pure, Except.pure]

/-- After a write, the path resolves as before and holds the file with the text written. -/
theorem written_file (written : d.writeFile path content = .ok d₁) :
    ∃ names, d₁.locateNamed path = .ok names ∧ Path.endsAsDirectory path = false ∧
      d₁.tree.checkParents names = .ok () ∧
      d₁.tree.find? names = some (.file content) ∧ names ≠ [] ∧
      d₁ = { d with tree := d.tree.put names (.file content) } := by
  obtain ⟨names, located, plain, parents, notDir, named, rfl⟩ := writeFile_eq_ok written
  refine ⟨names, locateNamed_put notDir _ located, plain, ?_, ?_, named, rfl⟩
  · have proper : ∀ i < names.length, names.take i ≠ names := fun i shorter same => by
      have := congrArg List.length same
      simp at this
      omega
    rw [Tree.checkParents_put proper, parents]
  · rw [Tree.find?_put]
    simp [named]

/-- **After a write, the path holds a file with the text written.** -/
theorem stat_writeFile (written : d.writeFile path content = .ok d₁) :
    d₁.stat path = .ok (.file content) := by
  obtain ⟨names, located, plain, parents, found, -, -⟩ := written_file written
  simp [stat, located, plain, Tree.stat, parents, found, bind, Except.bind]

theorem readFile_writeFile (written : d.writeFile path content = .ok d₁) :
    d₁.readFile path = .ok content := by
  obtain ⟨names, located, plain, parents, found, -, -⟩ := written_file written
  simp [readFile, located, plain, Tree.readFile, Tree.stat, parents, found, bind, Except.bind]

/-- **Writing the same text again leaves the disk as it is.** -/
theorem writeFile_writeFile (written : d.writeFile path content = .ok d₁) :
    d₁.writeFile path content = .ok d₁ := by
  obtain ⟨names, located, plain, parents, found, named, rfl⟩ := written_file written
  simp [writeFile, located, plain, Tree.writeFile, parents, found, named, Tree.put_put, bind,
    Except.bind, pure, Except.pure]

end Disk

end Localize.Files
