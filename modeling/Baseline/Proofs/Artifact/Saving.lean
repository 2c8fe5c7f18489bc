import Baseline.Proofs.Artifact.Writing
import Baseline.Proofs.FileTree.Content
import Baseline.Proofs.FileTree.Directory

/-!
# Saving baselines

A baseline is saved in the platform's directory for the test, which is made first
(`saveBaseline_eq_ok`).  From then on it is what the test is compared with, and
saving it again changes nothing (`Saved`, `saved_of_saveBaseline`): the platform's
place is looked at before all others, and it is the place that was written.

A second baseline of a test goes to the same directory.  When its name is the
shorter one nothing can go wrong with it, unless a directory has that name
(`saveBaseline_after_saveBaseline`).
-/

namespace Baseline

open Action

namespace Writer

/-! ### One baseline -/

variable {w : Writer} {test : Path} {data : Bytes} {suffix : String} {r r' : Run}

/-- The run after a baseline was saved: the files as they are then, and what is reported of it. -/
def afterSaving (r : Run) (path : Path) (length : Nat) (files : FileTree) : Run :=
  { r with
    files := files
    events := r.events ++ [.writingBaseline path, .writingArtifact path length] }

/-- **A baseline is saved** when its directory can be made and it can be written there. -/
theorem saveBaseline_eq_ok {path : Path} :
    w.saveBaseline test data suffix r = .ok path r' ↔ path = w.baselinePath test suffix ∧
      ∃ files files', r.files.ensureDirectory (w.baselineDir test) = (.ok (), files) ∧
        files.writeFile path data = .ok files' ∧ r' = afterSaving r path data.length files' := by
  constructor
  · intro h
    obtain ⟨⟨⟩, r₁, hdir, h⟩ := bind_eq_ok.mp h
    obtain ⟨files, hfiles, rfl⟩ := Run.ensureDirectory_eq_ok.mp hdir
    rw [bind_of_ok (Run.report_apply _ _)] at h
    obtain ⟨⟨⟩, r₂, hwrite, h⟩ := bind_eq_ok.mp h
    obtain ⟨files', hfiles', rfl⟩ := Run.write_eq_ok.mp hwrite
    rw [pure_apply, EStateM.Result.ok.injEq] at h
    obtain ⟨rfl, rfl⟩ := h
    exact ⟨rfl, files, files', hfiles, hfiles', by simp [afterSaving]⟩
  · rintro ⟨rfl, files, files', hfiles, hfiles', rfl⟩
    refine bind_eq_ok.mpr ⟨(), _, Run.ensureDirectory_eq_ok.mpr ⟨files, hfiles, rfl⟩, ?_⟩
    rw [bind_of_ok (Run.report_apply _ _)]
    refine bind_eq_ok.mpr ⟨(), _, Run.write_eq_ok.mpr ⟨files', hfiles', rfl⟩, ?_⟩
    simp [afterSaving, baselinePath]

theorem files_of_saveBaseline {path : Path} (h : w.saveBaseline test data suffix r = .ok path r') :
    ∃ files, r.files.ensureDirectory (w.baselineDir test) = (.ok (), files) ∧
      files.writeFile (w.baselinePath test suffix) data = .ok r'.files := by
  obtain ⟨rfl, files, files', hfiles, hfiles', rfl⟩ := saveBaseline_eq_ok.mp h
  exact ⟨files, hfiles, hfiles'⟩

/-- A baseline that is not saved has no directory or cannot be written there. -/
theorem files_of_failed_saveBaseline {e : RunError}
    (h : w.saveBaseline test data suffix r = .error e r') :
    (∃ fault, r.files.ensureDirectory (w.baselineDir test) = (.error fault, r'.files)) ∨
    (r.files.ensureDirectory (w.baselineDir test) = (.ok (), r'.files) ∧
      ∃ fault, r'.files.writeFile (w.baselinePath test suffix) data = .error fault ∧
        e = .file (w.baselinePath test suffix) fault) := by
  rcases bind_eq_error.mp h with hdir | ⟨⟨⟩, r₁, hdir, h⟩
  · obtain ⟨fault, hfiles, -⟩ := Run.ensureDirectory_eq_error.mp hdir
    exact Or.inl ⟨fault, hfiles⟩
  · obtain ⟨files, hfiles, rfl⟩ := Run.ensureDirectory_eq_ok.mp hdir
    rw [bind_of_ok (Run.report_apply _ _)] at h
    rcases bind_eq_error.mp h with hwrite | ⟨⟨⟩, r₂, -, h⟩
    · obtain ⟨fault, hfault, rfl, rfl⟩ := Run.write_eq_error.mp hwrite
      exact Or.inr ⟨hfiles, fault, hfault, rfl⟩
    · simp at h

theorem changesOnly_of_saveBaseline {path : Path}
    (h : w.saveBaseline test data suffix r = .ok path r') :
    r.files.ChangesOnly [w.baselinePath test suffix] (w.baselineDir test).ancestors r'.files :=
  ((w.saveBaseline_fileWork test data suffix (List.mem_singleton_self _) fun _ hq => hq).of_ok
    h).files

theorem changesOnly_of_failed_saveBaseline {e : RunError}
    (h : w.saveBaseline test data suffix r = .error e r') :
    r.files.ChangesOnly [] (w.baselineDir test).ancestors r'.files := by
  have hdir := FileTree.changesOnly_ensureDirectory r.files (w.baselineDir test)
  rcases files_of_failed_saveBaseline h with ⟨fault, hfail⟩ | ⟨hmade, -⟩
  · rwa [hfail] at hdir
  · rwa [hmade] at hdir

theorem readFile_of_saveBaseline {path : Path}
    (h : w.saveBaseline test data suffix r = .ok path r') :
    r'.files.readFile (w.baselinePath test suffix) = .ok data := by
  obtain ⟨files, -, hwrite⟩ := files_of_saveBaseline h
  exact FileTree.readFile_of_writeFile hwrite

theorem content?_of_saveBaseline {path : Path}
    (h : w.saveBaseline test data suffix r = .ok path r') :
    r'.files.content? (r'.files.place (w.baselinePath test suffix)) = some data :=
  FileTree.content?_of_readFile (readFile_of_saveBaseline h)

/-! ### What a test is compared with -/

/-- **The platform's baseline wins** as soon as it can be read. -/
theorem expectedBaseline_of_readFile {t : FileTree}
    (h : t.readFile (w.baselinePath test suffix) = .ok data) :
    w.expectedBaseline t test suffix = w.baselinePath test suffix :=
  if_pos (FileTree.isFile_of_readFile h)

/-- A baseline is what a test is compared with, and it does not change when it is saved again. -/
structure Saved (w : Writer) (test : Path) (data : Bytes) (suffix : String) (path : Path)
    (r : Run) : Prop where
  resolved : w.expectedBaseline r.files test suffix = path
  read : r.files.readFile path = .ok data
  again : w.saveBaseline test data suffix r =
    .ok path (afterSaving r path data.length r.files)

/-- **A baseline that is saved stays saved.** -/
theorem saved_of_saveBaseline {path : Path} (h : w.saveBaseline test data suffix r = .ok path r') :
    w.Saved test data suffix path r' := by
  obtain ⟨rfl, files, files', hdir, hwrite, rfl⟩ := saveBaseline_eq_ok.mp h
  have hread : files'.readFile (w.baselinePath test suffix) = .ok data :=
    FileTree.readFile_of_writeFile hwrite
  have hagain := FileTree.ensureDirectory_again hdir (FileTree.ChangesOnly.of_writeFile hwrite)
  exact
    { resolved := expectedBaseline_of_readFile hread
      read := hread
      again := saveBaseline_eq_ok.mpr
        ⟨rfl, files', files', hagain, FileTree.writeFile_again hwrite, rfl⟩ }

/-! ### Two baselines -/

/-- The two baselines of a test have different places. -/
theorem place_baselinePath_ne {suffix suffix' : String} (h : '/' ∉ suffix.toList)
    (h' : '/' ∉ suffix'.toList) (hne : Utf8.encode suffix ≠ Utf8.encode suffix') (t : FileTree) :
    t.place (w.baselinePath test suffix) ≠ t.place (w.baselinePath test suffix') := by
  rw [w.place_baselinePath test h, w.place_baselinePath test h']
  intro he
  exact hne (List.append_cancel_left (List.cons.inj he).1)

/-- **Once a baseline is saved**, another with a shorter name can be saved beside it, unless a
directory has its name. -/
theorem saveBaseline_after_saveBaseline {path : Path} {data' : Bytes} {suffix' : String}
    {e : RunError} {r'' : Run} (hs : '/' ∉ suffix.toList) (hs' : '/' ∉ suffix'.toList)
    (hlength : (Utf8.encode suffix').length ≤ (Utf8.encode suffix).length)
    (hzero : 0 ∉ Utf8.encode suffix')
    (h : w.saveBaseline test data suffix r = .ok path r')
    (he : w.saveBaseline test data' suffix' r' = .error e r'') :
    r''.files = r'.files ∧ r'.files.node? (r'.files.place (w.baselinePath test suffix')) =
      some .directory ∧ e = .file (w.baselinePath test suffix') .isDirectory := by
  obtain ⟨files, hdir, hwrite⟩ := files_of_saveBaseline h
  have hc := FileTree.ChangesOnly.of_writeFile hwrite
  have hagain := FileTree.ensureDirectory_again hdir hc
  rcases files_of_failed_saveBaseline he with ⟨fault, hfail⟩ | ⟨hfiles, fault, hfail, rfl⟩
  · rw [hagain] at hfail
    simp at hfail
  · rw [hagain] at hfiles
    obtain ⟨-, hfiles⟩ := Prod.mk.inj hfiles
    rw [← hfiles] at hfail ⊢
    obtain ⟨above, name, hopen, -⟩ := FileTree.writeFile_eq_ok.mp hwrite
    have hname := Checkout.isName_expectedName test hs
    have hname' := Checkout.isName_expectedName test hs'
    have hsibling := FileTree.openForWriting_sibling hname hname' (by
      simp only [Checkout.expectedName, List.length_append]
      omega) (by
      simp only [Checkout.expectedName, List.mem_append, hzero, or_false]
      exact Or.inl) (w.baselinePath_eq test hs ▸ hopen) hc
    rw [← w.baselinePath_eq test hs'] at hsibling
    unfold FileTree.writeFile at hfail
    rw [hsibling] at hfail
    split at hfail
    · rename_i hd
      split at hd
      · rename_i hdirectory
        cases hd
        cases hfail
        exact ⟨rfl, hdirectory, rfl⟩
      · simp at hd
    · simp at hfail

end Writer

end Baseline
