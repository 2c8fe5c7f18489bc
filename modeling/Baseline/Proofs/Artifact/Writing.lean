import Baseline.Proofs.Artifact.Path
import Baseline.Proofs.WordDiff.Stage

/-!
# Writing the artifacts of a test

`writeResults` makes the directory, writes the texts that there are (`writeTexts`:
output, baseline and line diff, in this order) and, when a word diff is due, goes
through the word-diff stage and writes its page.  `writeResults_eq` says so, and
everything about `writeResults` is proved from it.

Writing several files in a row (`Run.writeAll`) is file work at their paths, and
when no two paths lead to the same place every file holds its own content in the
end (`readFile_of_writeAll`).

No file changes but the artifacts when no word diff is due, or when the tool that is called for it
spares the files (`changesOnly_of_writeResults`).
-/

namespace Baseline

open Action

namespace Run

/-! ### Several files in a row -/

/-- Write files one after the other. -/
def writeAll : List (Path × Bytes) → Action Unit
  | [] => pure ()
  | (p, data) :: rest => do
    write p data
    writeAll rest

theorem writeAll_fileWork {writes dirs : List Path} {ps : List (Path × Bytes)}
    (h : ∀ pd ∈ ps, pd.1 ∈ writes) : Leads (FileWork writes dirs) (writeAll ps) := by
  induction ps with
  | nil => exact Leads.pure (FileWork.order _ _) ()
  | cons pd ps ih =>
    exact Leads.bind (FileWork.order _ _) (write_fileWork (h pd (by simp)) pd.2)
      fun _ => ih fun qd hq => h qd (by simp [hq])

/-- **Files written in a row** hold their contents when their places differ. -/
theorem readFile_of_writeAll {ps : List (Path × Bytes)} {r r' : Run}
    (h : writeAll ps r = .ok () r') (hn : (ps.map fun pd => r.files.place pd.1).Nodup) :
    ∀ pd ∈ ps, r'.files.readFile pd.1 = .ok pd.2 := by
  induction ps generalizing r with
  | nil => simp
  | cons pd ps ih =>
    obtain ⟨⟨⟩, r₁, hw, hrest⟩ := bind_eq_ok.mp h
    obtain ⟨files, hfile, hr₁⟩ := write_eq_ok.mp hw
    have hfiles : r₁.files = files := by rw [hr₁]
    have hplace : ∀ q, r₁.files.place q = r.files.place q := fun q =>
      hfiles ▸ (FileTree.ChangesOnly.of_writeFile hfile).place q
    rw [List.map_cons, List.nodup_cons] at hn
    intro qd hq
    rcases List.mem_cons.mp hq with rfl | hq
    · -- the files written after this one are somewhere else
      have hwork : FileWork (ps.map Prod.fst) [] r₁ r' :=
        (writeAll_fileWork fun pd hpd => List.mem_map_of_mem hpd).of_ok hrest
      refine hwork.files.readFile (hfiles ▸ FileTree.readFile_of_writeFile hfile) ?_
      intro q hq he
      obtain ⟨pd, hpd, rfl⟩ := List.mem_map.mp hq
      rw [hplace, hplace] at he
      exact hn.1 (List.mem_map.mpr ⟨pd, hpd, he⟩)
    · refine ih hrest ?_ qd hq
      simpa only [hplace] using hn.2

/-- **Files written in a row** until one of them fails: those before it are written. -/
theorem writeAll_eq_error {ps : List (Path × Bytes)} {e : RunError} {r r' : Run}
    (h : writeAll ps r = .error e r') :
    ∃ done pd rest r₁, ps = done ++ pd :: rest ∧ writeAll done r = .ok () r₁ ∧
      write pd.1 pd.2 r₁ = .error e r' := by
  induction ps generalizing r with
  | nil =>
    rw [writeAll, pure_apply] at h
    simp at h
  | cons pd ps ih =>
    rcases bind_eq_error.mp h with hwrite | ⟨⟨⟩, r₁, hwrite, hrest⟩
    · exact ⟨[], pd, ps, r, rfl, rfl, hwrite⟩
    · obtain ⟨done, qd, rest, r₂, rfl, hdone, hfail⟩ := ih hrest
      exact ⟨pd :: done, qd, rest, r₂, rfl, bind_eq_ok.mpr ⟨(), r₁, hwrite, hdone⟩, hfail⟩

end Run

namespace Writer

/-! ### The artifacts of a call -/

/-- The files that are written before the word-diff stage. -/
def texts (w : Writer) (test : Path) (tag extension : String) (actual expected : Option Bytes)
    (lines : Bool) : List (Path × Bytes) :=
  (present actual).toList.map (w.actualPath test tag extension, ·) ++
    (present expected).toList.map (w.expectedPath test tag extension, ·) ++
    match present actual, present expected with
    | some a, some e =>
      if lines then [(w.diffPath test tag extension, w.lineDiff test tag extension e a)] else []
    | _, _ => []

/-- All that is done before the word-diff stage. -/
def writeTexts (w : Writer) (test : Path) (tag extension : String)
    (actual expected : Option Bytes) (lines : Bool) : Action Unit := do
  w.ensureOutputDirectory test
  Run.writeAll (w.texts test tag extension actual expected lines)

/-- Whether a word diff is due. -/
def wantsWords (actual expected : Option Bytes) (diffs : Diffs) : Bool :=
  (present actual).isSome && (present expected).isSome && diffs.words

/-- The artifacts of a call that ends well. -/
def written (w : Writer) (test : Path) (tag extension : String) (actual expected : Option Bytes)
    (diffs : Diffs) : Artifacts where
  actual := (present actual).map fun _ => w.actualPath test tag extension
  expected := (present expected).map fun _ => w.expectedPath test tag extension
  diff :=
    if (present actual).isSome && (present expected).isSome && diffs.lines then
      some (w.diffPath test tag extension)
    else none
  wordDiff := if wantsWords actual expected diffs then some (w.wordDiffPath test tag) else none

/-- The word-diff stage and its artifact. -/
def writeWordDiff (w : Writer) (test : Path) (tag extension : String) : Action Unit := do
  let page ← w.wordDiffPage (w.expectedPath test tag extension) (w.actualPath test tag extension)
  Run.write (w.wordDiffPath test tag) (Utf8.encode page.html)

/-- **What a call does**: the directory and the texts, and the word diff when one is due. -/
theorem writeResults_eq (w : Writer) (test : Path) (tag extension : String)
    (actual expected : Option Bytes) (diffs : Diffs) :
    w.writeResults test tag extension actual expected diffs = (do
      w.writeTexts test tag extension actual expected diffs.lines
      (if wantsWords actual expected diffs then w.writeWordDiff test tag extension else pure ())
      return w.written test tag extension actual expected diffs) := by
  obtain ⟨lines, words⟩ := diffs
  unfold writeResults writeTexts texts written wantsWords writeWordDiff
  cases present actual with
  | none => cases present expected <;> simp [keep, Run.writeAll]
  | some a =>
    cases present expected with
    | none => simp [keep, Run.writeAll]
    | some e => cases lines <;> cases words <;> simp [keep, Run.writeAll]

theorem present_eq_some {content : Option Bytes} {data : Bytes} :
    present content = some data ↔ content = some data ∧ data ≠ [] := by
  simp [present, Option.filter_eq_some_iff]

theorem present_some {data : Bytes} (h : data ≠ []) : present (some data) = some data :=
  present_eq_some.mpr ⟨rfl, h⟩

theorem actual_mem_texts (w : Writer) (test : Path) (tag extension : String)
    {actual expected : Option Bytes} {a : Bytes} (h : present actual = some a) (lines : Bool) :
    (w.actualPath test tag extension, a) ∈ w.texts test tag extension actual expected lines := by
  have hmem : a ∈ (present actual).toList := Option.mem_toList.mpr h
  exact List.mem_append_left _ (List.mem_append_left _ (List.mem_map_of_mem hmem))

theorem expected_mem_texts (w : Writer) (test : Path) (tag extension : String)
    {actual expected : Option Bytes} {e : Bytes} (h : present expected = some e) (lines : Bool) :
    (w.expectedPath test tag extension, e) ∈ w.texts test tag extension actual expected lines := by
  have hmem : e ∈ (present expected).toList := Option.mem_toList.mpr h
  exact List.mem_append_left _ (List.mem_append_right _ (List.mem_map_of_mem hmem))

/-! ### Which files change -/

theorem map_fst_texts_sublist (w : Writer) (test : Path) (tag extension : String)
    (actual expected : Option Bytes) (lines : Bool) :
    ((w.texts test tag extension actual expected lines).map Prod.fst).Sublist
      (w.textPaths test tag extension) := by
  unfold texts textPaths
  cases present actual with
  | none => cases present expected <;> simp
  | some a =>
    cases present expected with
    | none => simp
    | some e => cases lines <;> simp

theorem mem_textPaths_of_texts {w : Writer} {test : Path} {tag extension : String}
    {actual expected : Option Bytes} {lines : Bool} {p : Path}
    (h : p ∈ (w.texts test tag extension actual expected lines).map Prod.fst) :
    p ∈ w.textPaths test tag extension :=
  (w.map_fst_texts_sublist test tag extension actual expected lines).subset h

/-- Without a line diff there are two texts at most. -/
theorem mem_texts_of_no_lines {w : Writer} {test : Path} {tag extension : String}
    {actual expected : Option Bytes} {p : Path}
    (h : p ∈ (w.texts test tag extension actual expected false).map Prod.fst) :
    p = w.actualPath test tag extension ∨ p = w.expectedPath test tag extension := by
  unfold texts at h
  cases ha : present actual <;> cases hx : present expected <;> simp [ha, hx] at h <;> simp [h]

/-- The artifacts of a call are its texts and then its word diff. -/
theorem paths_written (w : Writer) (test : Path) (tag extension : String)
    (actual expected : Option Bytes) (diffs : Diffs) :
    (w.written test tag extension actual expected diffs).paths =
      (w.texts test tag extension actual expected diffs.lines).map Prod.fst ++
        if wantsWords actual expected diffs then [w.wordDiffPath test tag] else [] := by
  obtain ⟨lines, words⟩ := diffs
  unfold written texts wantsWords Artifacts.paths
  cases present actual with
  | none => cases present expected <;> simp
  | some a =>
    cases present expected with
    | none => simp
    | some e => cases lines <;> cases words <;> simp

theorem mem_resultPaths_of_written {w : Writer} {test : Path} {tag extension : String}
    {actual expected : Option Bytes} {diffs : Diffs} {p : Path}
    (h : p ∈ (w.written test tag extension actual expected diffs).paths) :
    p ∈ w.resultPaths test tag extension := by
  rw [paths_written] at h
  rcases List.mem_append.mp h with h | h
  · exact List.mem_append_left _ (mem_textPaths_of_texts h)
  · refine List.mem_append_right _ ?_
    split at h
    · exact h
    · simp at h

variable {writes dirs : List Path}

/-- The texts are file work at their paths. -/
theorem writeTexts_fileWork (w : Writer) (test : Path) (tag extension : String)
    (actual expected : Option Bytes) (lines : Bool)
    (hw : ∀ p ∈ (w.texts test tag extension actual expected lines).map Prod.fst, p ∈ writes)
    (hd : ∀ q ∈ (w.artifactDir test).ancestors, q ∈ dirs) :
    Leads (Run.FileWork writes dirs) (w.writeTexts test tag extension actual expected lines) :=
  Leads.bind (Run.FileWork.order _ _) (Run.ensureDirectory_fileWork hd) fun _ =>
    Run.writeAll_fileWork fun _ hpd => hw _ (List.mem_map_of_mem hpd)

/-- Without a word diff that is due a call is file work. -/
theorem writeResults_fileWork (w : Writer) (test : Path) (tag extension : String)
    {actual expected : Option Bytes} {diffs : Diffs} (hn : ¬ wantsWords actual expected diffs)
    (hw : ∀ p ∈ (w.texts test tag extension actual expected diffs.lines).map Prod.fst, p ∈ writes)
    (hd : ∀ q ∈ (w.artifactDir test).ancestors, q ∈ dirs) :
    Leads (Run.FileWork writes dirs)
      (w.writeResults test tag extension actual expected diffs) := by
  have horder := Run.FileWork.order writes dirs
  rw [writeResults_eq, if_neg hn]
  refine Leads.bind horder ?_ fun _ => Leads.bind horder (Leads.pure horder ()) fun _ =>
    Leads.pure horder _
  exact w.writeTexts_fileWork test tag extension actual expected diffs.lines hw hd

theorem words_of_wantsWords {actual expected : Option Bytes} {diffs : Diffs}
    (h : wantsWords actual expected diffs = true) : diffs.words = true :=
  (Bool.and_eq_true_iff.mp h).2

theorem not_wantsWords {actual expected : Option Bytes} {diffs : Diffs} (h : diffs.words = false) :
    ¬ wantsWords actual expected diffs := by
  simp [wantsWords, h]

/-- **A call leads along whatever its parts lead along.** -/
theorem writeResults_leads {w : Writer} {test : Path} {tag extension : String} {r : Run}
    {R : Run → Run → Prop} (hR : w.WorkOrder writes dirs (w.expectedPath test tag extension)
      (w.actualPath test tag extension) r R)
    (actual expected : Option Bytes) (diffs : Diffs)
    (hw : ∀ p ∈ (w.written test tag extension actual expected diffs).paths, p ∈ writes)
    (hd : ∀ q ∈ (w.artifactDir test).ancestors, q ∈ dirs) :
    R r (endOf (w.writeResults test tag extension actual expected diffs r)) := by
  have horder := hR.toRunOrder
  rw [paths_written] at hw
  have htexts := w.writeTexts_fileWork test tag extension actual expected diffs.lines
    (fun p hp => hw p (List.mem_append_left _ hp)) hd
  rw [writeResults_eq]
  refine endOf_bind horder (hR.fileWork (htexts r)) fun _ stage hstage => ?_
  refine endOf_bind horder ?_ fun _ r₂ _ => horder.refl r₂
  split
  · -- the stage is reached by file work, and only file work comes after it
    rename_i hwants
    rw [if_pos hwants] at hw
    have hpage : w.wordDiffPath test tag ∈ writes := hw _ (List.mem_append_right _ (by simp))
    exact endOf_bind horder (hR.wordDiff stage (htexts.of_ok hstage)) fun page r₂ _ =>
      hR.leads (Run.write_fileWork hpage _) r₂
  · exact horder.refl stage

/-- The tool that is called for the word diff of a test, when one is due, spares the files. -/
def ToolSparesResults (w : Writer) (test : Path) (tag extension : String) (due : Bool) (r : Run) :
    Prop :=
  due = true → w.ToolSpares (w.resultPaths test tag extension) (w.artifactDir test).ancestors
    (w.expectedPath test tag extension) (w.actualPath test tag extension) r

/-- **A call changes nothing but its artifacts**, however it ends, when the tool spares the files. -/
theorem changesOnly_of_writeResults {w : Writer} {test : Path} {tag extension : String}
    {actual expected : Option Bytes} {diffs : Diffs} {r : Run}
    (hs : w.ToolSparesResults test tag extension (wantsWords actual expected diffs) r) :
    r.files.ChangesOnly (w.written test tag extension actual expected diffs).paths
      (w.artifactDir test).ancestors
      (endOf (w.writeResults test tag extension actual expected diffs r)).files := by
  by_cases hwants : wantsWords actual expected diffs = true
  · -- the tool spares in particular the files that only these artifacts have changed
    have hspares : w.ToolSpares (w.written test tag extension actual expected diffs).paths
        (w.artifactDir test).ancestors (w.expectedPath test tag extension)
        (w.actualPath test tag extension) r :=
      (hs hwants).mono (fun _ hp => mem_resultPaths_of_written hp) fun _ hq => hq
    exact writeResults_leads (workOrder_of_toolSpares hspares) actual expected diffs
      (fun _ hp => hp) fun _ hq => hq
  · refine (w.writeResults_fileWork test tag extension hwants (fun p hp => ?_)
      (fun _ hq => hq) r).files
    rw [paths_written]
    exact List.mem_append_left _ hp

/-- **A baseline that is saved** is the only file that changes. -/
theorem saveBaseline_fileWork (w : Writer) (test : Path) (data : Bytes) (suffix : String)
    (hw : w.baselinePath test suffix ∈ writes)
    (hd : ∀ q ∈ (w.baselineDir test).ancestors, q ∈ dirs) :
    Leads (Run.FileWork writes dirs) (w.saveBaseline test data suffix) := by
  have horder := Run.FileWork.order writes dirs
  refine Leads.bind horder (Run.ensureDirectory_fileWork hd) fun _ => ?_
  refine Leads.bind horder (Run.leads_fileWork (Run.report_looks rfl)) fun _ => ?_
  exact Leads.bind horder (Run.write_fileWork hw data) fun _ => Leads.pure horder _

end Writer

end Baseline
