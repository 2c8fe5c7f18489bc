import Baseline.Proofs.Artifact.Results

/-!
# Calls that stop

The writes of a call have an order: output, baseline, line diff, word diff.  A call that fails has
stopped somewhere in it (`Stopped`): what comes before is written in full, what comes from there on
is as it was, and nothing else has changed.  A call that ends well has made all of them
(`Completed`).  Either way the writes that were reported are the ones that were made, and at most
the one that failed after them (`outcome_of_writeResults`).

A call fails when its directory cannot be made, at one of the texts (`stopped_of_writeTexts`), in
the tool or at the word diff (`stopped_of_writeWordDiff`).  Each of these comes down to
which files were written before it, since a file that is not written cannot change
(`Stopped.of_frame`).
-/

namespace Baseline

open Action WordDiff

/-- The file that an event says is written, and its size. -/
def Event.writing? : Event → Option (Path × Nat)
  | .writingArtifact p size => some (p, size)
  | _ => none

namespace Run

/-! ### Writes that are reported -/

/-- A file and its size. -/
def sized (pd : Path × Bytes) : Path × Nat := (pd.1, pd.2.length)

/-- The writes that were reported between two runs. -/
def Announced (r r' : Run) (writes : List (Path × Nat)) : Prop :=
  r'.events.filterMap Event.writing? = r.events.filterMap Event.writing? ++ writes

variable {r r' r'' : Run}

theorem announced_of_events (h : r'.events = r.events) : r.Announced r' [] := by
  rw [Announced, h, List.append_nil]

theorem Announced.trans {l l' : List (Path × Nat)} (h : r.Announced r' l)
    (h' : r'.Announced r'' l') : r.Announced r'' (l ++ l') := by
  rw [Announced, h', h, List.append_assoc]

theorem announced_reported {e : Event} (he : e.writing? = none) (wanted : Bool) (r : Run) :
    r.Announced (r.reported wanted e) [] := by
  cases wanted with
  | false => exact announced_of_events (List.append_nil _)
  | true => simp [Announced, reported, he]

/-- A write is reported, whether it can be made or not. -/
theorem announced_write (p : Path) (data : Bytes) :
    Leads (fun r r' => r.Announced r' [(p, data.length)]) (write p data) := by
  intro r
  rw [write_apply]
  cases r.files.writeFile p data <;> simp [endOf, Announced, Event.writing?]

theorem announced_ensureDirectory (p : Path) :
    Leads (fun r r' => r.Announced r' []) (ensureDirectory p) := by
  intro r
  apply announced_of_events
  unfold ensureDirectory
  rcases r.files.ensureDirectory p with ⟨_ | _, files⟩ <;> rfl

theorem announced_writeAll {ps : List (Path × Bytes)} (h : writeAll ps r = .ok () r') :
    r.Announced r' (ps.map sized) := by
  induction ps generalizing r with
  | nil =>
    rw [writeAll, pure_apply, EStateM.Result.ok.injEq] at h
    exact announced_of_events (congrArg events h.2.symm)
  | cons pd ps ih =>
    obtain ⟨⟨⟩, r₁, hwrite, hrest⟩ := bind_eq_ok.mp h
    exact ((announced_write pd.1 pd.2).of_ok hwrite).trans (ih hrest)

end Run

namespace Writer

/-- The word-diff stage writes no file itself. -/
theorem announced_wordDiffPage (w : Writer) (expected actual : Path) :
    Leads (fun r r' => r.Announced r' []) (w.wordDiffPage expected actual) := by
  intro r
  rw [wordDiffPage_eq]
  split
  · split
    · exact Run.announced_of_events rfl
    · split
      · simp [endOf, Run.Announced, Event.writing?]
      · simp [endOf, Run.Announced, Event.writing?]
      · exact Run.announced_of_events rfl
  · exact Run.announced_of_events rfl

variable {w : Writer} {test : Path} {tag extension : String} {actual expected : Option Bytes}
  {diffs : Diffs} {r r' : Run} {e : RunError}

/-! ### How a call ends -/

/-- A file that a call has to write, with its content: one of the texts, or the page that the tool's
answer leads to once these are written. -/
inductive Due (w : Writer) (test : Path) (tag extension : String) (actual expected : Option Bytes)
    (diffs : Diffs) (r : Run) : Path × Bytes → Prop
  | text {pd : Path × Bytes} (h : pd ∈ w.texts test tag extension actual expected diffs.lines) :
    Due w test tag extension actual expected diffs r pd
  | words {stage : Run} {page : Page} (hwants : wantsWords actual expected diffs = true)
    (htexts : w.writeTexts test tag extension actual expected diffs.lines r = .ok () stage)
    (hpage : Page.of? stage.availability.isAvailable
      (w.toolAnswer stage (w.expectedPath test tag extension)
        (w.actualPath test tag extension)) = some page) :
    Due w test tag extension actual expected diffs r
      (w.wordDiffPath test tag, Utf8.encode page.html)

/-- The writes that a call has reported when it fails: those that are done, and at most the first
one left, which could not be made. -/
inductive Reported (w : Writer) (test : Path) (tag extension : String)
    (actual expected : Option Bytes) (diffs : Diffs) (r r' : Run) (e : RunError)
    (done : List (Path × Bytes)) : List Path → Prop
  | before {left : List Path} (h : r.Announced r' (done.map Run.sized)) :
    Reported w test tag extension actual expected diffs r r' e done left
  | failed {pd : Path × Bytes} {rest : List Path} {fault : Fault}
    (hdue : w.Due test tag extension actual expected diffs r pd) (he : e = .file pd.1 fault)
    (h : r.Announced r' (done.map Run.sized ++ [Run.sized pd])) :
    Reported w test tag extension actual expected diffs r r' e done (pd.1 :: rest)

/-- A call that has failed with some of its writes done and the others left. -/
structure Stopped (w : Writer) (test : Path) (tag extension : String)
    (actual expected : Option Bytes) (diffs : Diffs) (r r' : Run) (e : RunError)
    (done : List (Path × Bytes)) (left : List Path) : Prop where
  order : done.map Prod.fst ++ left = (w.written test tag extension actual expected diffs).paths
  due : ∀ pd ∈ done, w.Due test tag extension actual expected diffs r pd
  complete : ∀ pd ∈ done, r'.files.readFile pd.1 = .ok pd.2
  /-- Where a file is left to be written there is the file that was there, or still none. -/
  untouched : ∀ p ∈ left, ∀ data x,
    r'.files.node? (r.files.place p) = some (.file data x) ↔
      r.files.node? (r.files.place p) = some (.file data x)
  frame : r.files.ChangesOnly (done.map Prod.fst) (w.artifactDir test).ancestors r'.files
  reported : w.Reported test tag extension actual expected diffs r r' e done left

/-- A call that has ended well with all its writes done. -/
structure Completed (w : Writer) (test : Path) (tag extension : String)
    (actual expected : Option Bytes) (diffs : Diffs) (r r' : Run) (set : Artifacts)
    (files : List (Path × Bytes)) : Prop where
  order : files.map Prod.fst = set.paths
  due : ∀ pd ∈ files, w.Due test tag extension actual expected diffs r pd
  complete : ∀ pd ∈ files, r'.files.readFile pd.1 = .ok pd.2
  announced : r.Announced r' (files.map Run.sized)

theorem nodup_writtenPlaces (w : Writer) (test : Path) (actual expected : Option Bytes)
    (diffs : Diffs) (ht : '/' ∉ tag.toList) (he : '/' ∉ extension.toList) (t : FileTree) :
    ((w.written test tag extension actual expected diffs).paths.map t.place).Nodup := by
  have hsub : (w.written test tag extension actual expected diffs).paths.Sublist
      (w.resultPaths test tag extension) := by
    rw [paths_written, resultPaths]
    apply (w.map_fst_texts_sublist test tag extension actual expected diffs.lines).append
    split
    · exact List.Sublist.refl _
    · exact List.nil_sublist _
  exact (w.nodup_resultPlaces test ht he t).sublist (hsub.map t.place)

/-- What is left is untouched when only what is done was written. -/
theorem Stopped.of_frame (ht : '/' ∉ tag.toList) (he : '/' ∉ extension.toList)
    {done : List (Path × Bytes)} {left : List Path}
    (horder : done.map Prod.fst ++ left =
      (w.written test tag extension actual expected diffs).paths)
    (hdue : ∀ pd ∈ done, w.Due test tag extension actual expected diffs r pd)
    (hcomplete : ∀ pd ∈ done, r'.files.readFile pd.1 = .ok pd.2)
    (hframe : r.files.ChangesOnly (done.map Prod.fst) (w.artifactDir test).ancestors r'.files)
    (hreported : w.Reported test tag extension actual expected diffs r r' e done left) :
    w.Stopped test tag extension actual expected diffs r r' e done left := by
  refine ⟨horder, hdue, hcomplete, ?_, hframe, hreported⟩
  intro p hp
  have hnodup := w.nodup_writtenPlaces test actual expected diffs ht he r.files
  rw [← horder, List.map_append, List.nodup_append] at hnodup
  apply hframe.file_iff
  intro q hq
  exact hnodup.2.2 _ (List.mem_map_of_mem hq) _ (List.mem_map_of_mem hp)

/-! ### Before the word-diff stage -/

theorem nodup_textPlaces (w : Writer) (test : Path) (actual expected : Option Bytes) (lines : Bool)
    (ht : '/' ∉ tag.toList) (he : '/' ∉ extension.toList) (t : FileTree) :
    ((w.texts test tag extension actual expected lines).map fun pd => t.place pd.1).Nodup := by
  have hnodup := w.nodup_writtenPlaces test actual expected ⟨lines, false⟩ ht he t
  rw [paths_written, if_neg (by simp [wantsWords]), List.append_nil, List.map_map] at hnodup
  exact hnodup

/-- The texts that were written before one of them failed. -/
theorem stopped_of_writeTexts (ht : '/' ∉ tag.toList) (he : '/' ∉ extension.toList)
    (h : w.writeTexts test tag extension actual expected diffs.lines r = .error e r') :
    ∃ done left, w.Stopped test tag extension actual expected diffs r r' e done left := by
  rcases bind_eq_error.mp h with hdir | ⟨⟨⟩, r₁, hdir, hall⟩
  · -- nothing has been written yet
    obtain ⟨fault, hfiles, -, -⟩ := Run.ensureDirectory_eq_error.mp hdir
    have hframe := FileTree.changesOnly_ensureDirectory r.files (w.artifactDir test)
    rw [hfiles] at hframe
    have hannounced := (Run.announced_ensureDirectory _).of_error hdir
    exact ⟨[], _, .of_frame ht he rfl (by simp) (by simp) hframe (.before hannounced)⟩
  · obtain ⟨done, pd, rest, r₂, htexts, hdone, hfail⟩ := Run.writeAll_eq_error hall
    obtain ⟨fault, -, rfl, hr'⟩ := Run.write_eq_error.mp hfail
    have hfiles : r'.files = r₂.files := by rw [hr']
    have hmem : ∀ qd ∈ done ++ [pd], qd ∈ w.texts test tag extension actual expected diffs.lines := by
      intro qd hqd
      rw [htexts, List.append_cons]
      exact List.mem_append_left rest hqd
    have hnodup := w.nodup_textPlaces test actual expected diffs.lines ht he r₁.files
    rw [htexts, List.map_append, List.nodup_append] at hnodup
    have hread := Run.readFile_of_writeAll hdone hnodup.1
    have hmade : r.FileWork (done.map Prod.fst) (w.artifactDir test).ancestors r₁ :=
      (Run.ensureDirectory_fileWork fun _ hq => hq).of_ok hdir
    have hwritten : r₁.FileWork (done.map Prod.fst) (w.artifactDir test).ancestors r₂ :=
      (Run.writeAll_fileWork fun _ hqd => List.mem_map_of_mem hqd).of_ok hdone
    have hframe := hmade.files.trans hwritten.files
    have hannounced : r.Announced r' (done.map Run.sized ++ [Run.sized pd]) := by
      have hbefore := ((Run.announced_ensureDirectory _).of_ok hdir).trans
        (Run.announced_writeAll hdone)
      exact hbefore.trans ((Run.announced_write pd.1 pd.2).of_error hfail)
    refine ⟨done, pd.1 :: (rest.map Prod.fst ++
      if wantsWords actual expected diffs then [w.wordDiffPath test tag] else []), ?_⟩
    apply Stopped.of_frame ht he
    · rw [paths_written, htexts]
      simp
    · intro qd hqd
      exact .text (hmem qd (List.mem_append_left _ hqd))
    · rwa [hfiles]
    · rwa [hfiles]
    · exact .failed (.text (hmem pd (by simp))) rfl hannounced

/-! ### The word-diff stage -/

/-- What is known when the word-diff stage is reached. -/
structure Reached (w : Writer) (test : Path) (tag extension : String)
    (actual expected : Option Bytes) (diffs : Diffs) (r stage : Run) : Prop where
  complete : ∀ pd ∈ w.texts test tag extension actual expected diffs.lines,
    stage.files.readFile pd.1 = .ok pd.2
  frame : r.files.ChangesOnly
    ((w.texts test tag extension actual expected diffs.lines).map Prod.fst)
    (w.artifactDir test).ancestors stage.files
  announced : r.Announced stage
    ((w.texts test tag extension actual expected diffs.lines).map Run.sized)

theorem reached_of_writeTexts (ht : '/' ∉ tag.toList) (he : '/' ∉ extension.toList) {stage : Run}
    (h : w.writeTexts test tag extension actual expected diffs.lines r = .ok () stage) :
    w.Reached test tag extension actual expected diffs r stage := by
  refine ⟨readFile_texts ht he h, ?_, ?_⟩
  · exact ((w.writeTexts_fileWork test tag extension actual expected diffs.lines
      (fun _ hp => hp) fun _ hq => hq).of_ok h).files
  · obtain ⟨⟨⟩, r₁, hdir, hall⟩ := bind_eq_ok.mp h
    exact ((Run.announced_ensureDirectory _).of_ok hdir).trans (Run.announced_writeAll hall)

/-- The tool, or a page that cannot be written, leaves the files as the texts left them. -/
theorem Reached.stopped {stage : Run}
    (h : w.Reached test tag extension actual expected diffs r stage)
    (ht : '/' ∉ tag.toList) (he : '/' ∉ extension.toList)
    (hwants : wantsWords actual expected diffs = true) (hfiles : r'.files = stage.files)
    (hreported : w.Reported test tag extension actual expected diffs r r' e
      (w.texts test tag extension actual expected diffs.lines) [w.wordDiffPath test tag]) :
    w.Stopped test tag extension actual expected diffs r r' e
      (w.texts test tag extension actual expected diffs.lines) [w.wordDiffPath test tag] := by
  apply Stopped.of_frame ht he
  · rw [paths_written, if_pos hwants]
  · exact fun pd hpd => .text hpd
  · exact hfiles ▸ h.complete
  · exact hfiles ▸ h.frame
  · exact hreported

/-- All texts were written when the word diff failed. -/
theorem stopped_of_writeWordDiff (ht : '/' ∉ tag.toList) (he : '/' ∉ extension.toList)
    (hwants : wantsWords actual expected diffs = true)
    (hs : w.ToolSparesResults test tag extension (wantsWords actual expected diffs) r) {stage : Run}
    (htexts : w.writeTexts test tag extension actual expected diffs.lines r = .ok () stage)
    (h : w.writeWordDiff test tag extension stage = .error e r') :
    w.Stopped test tag extension actual expected diffs r r' e
      (w.texts test tag extension actual expected diffs.lines) [w.wordDiffPath test tag] := by
  have hreached := reached_of_writeTexts ht he htexts
  have hspared := files_endOf_of_toolSparesResults hs htexts hwants
  have hstage := w.announced_wordDiffPage (w.expectedPath test tag extension)
    (w.actualPath test tag extension)
  rcases bind_eq_error.mp h with htool | ⟨page, r₂, hpage, hfail⟩
  · rw [htool] at hspared
    have hannounced := hreached.announced.trans (hstage.of_error htool)
    rw [List.append_nil] at hannounced
    exact hreached.stopped ht he hwants hspared (.before hannounced)
  · rw [hpage] at hspared
    obtain ⟨fault, -, rfl, hr'⟩ := Run.write_eq_error.mp hfail
    have hfiles : r'.files = r₂.files := by rw [hr']
    have hannounced := (hreached.announced.trans (hstage.of_ok hpage)).trans
      ((Run.announced_write _ _).of_error hfail)
    rw [List.append_nil] at hannounced
    have hdue := Due.words hwants htexts (page_of_wordDiffPage hpage)
    exact hreached.stopped ht he hwants (hfiles.trans hspared) (.failed hdue rfl hannounced)

theorem completed_of_writeResults (ht : '/' ∉ tag.toList) (he : '/' ∉ extension.toList)
    (hs : w.ToolSparesResults test tag extension (wantsWords actual expected diffs) r)
    {set : Artifacts}
    (h : w.writeResults test tag extension actual expected diffs r = .ok set r') :
    ∃ files, w.Completed test tag extension actual expected diffs r r' set files := by
  obtain ⟨stage, htexts, hwords, rfl⟩ := writeResults_eq_ok h
  have hreached := reached_of_writeTexts ht he htexts
  have hkept := readFile_of_writeResults ht he hs h
  by_cases hwants : wantsWords actual expected diffs = true
  · rw [if_pos hwants] at hwords
    obtain ⟨page, r₂, hpage, hwrite⟩ := bind_eq_ok.mp hwords
    obtain ⟨files, hfile, hr'⟩ := Run.write_eq_ok.mp hwrite
    have hread : r'.files.readFile (w.wordDiffPath test tag) = .ok (Utf8.encode page.html) := by
      rw [hr']
      exact FileTree.readFile_of_writeFile hfile
    have hannounced := (hreached.announced.trans ((w.announced_wordDiffPage _ _).of_ok hpage)).trans
      ((Run.announced_write _ _).of_ok hwrite)
    refine ⟨w.texts test tag extension actual expected diffs.lines ++
      [(w.wordDiffPath test tag, Utf8.encode page.html)], ?_, ?_, ?_, ?_⟩
    · rw [paths_written, if_pos hwants, List.map_append]
      rfl
    · intro pd hpd
      rcases List.mem_append.mp hpd with htext | hword
      · exact .text htext
      · rw [List.mem_singleton.mp hword]
        exact .words hwants htexts (page_of_wordDiffPage hpage)
    · intro pd hpd
      rcases List.mem_append.mp hpd with htext | hword
      · exact hkept pd htext
      · rw [List.mem_singleton.mp hword]
        exact hread
    · rw [List.append_nil] at hannounced
      rw [List.map_append]
      exact hannounced
  · rw [if_neg hwants, pure_apply, EStateM.Result.ok.injEq] at hwords
    obtain ⟨-, rfl⟩ := hwords
    refine ⟨w.texts test tag extension actual expected diffs.lines, ?_, fun pd hpd => .text hpd,
      hkept, hreached.announced⟩
    rw [paths_written, if_neg hwants, List.append_nil]

/-! ### The whole call -/

/-- **A call that fails has stopped between two of its writes**, and one that ends well has made
them all; the writes it has reported are those. -/
theorem outcome_of_writeResults (ht : '/' ∉ tag.toList) (he : '/' ∉ extension.toList)
    (hs : w.ToolSparesResults test tag extension (wantsWords actual expected diffs) r) :
    (∀ e r', w.writeResults test tag extension actual expected diffs r = .error e r' →
      ∃ done left, w.Stopped test tag extension actual expected diffs r r' e done left) ∧
    ∀ set r', w.writeResults test tag extension actual expected diffs r = .ok set r' →
      ∃ files, w.Completed test tag extension actual expected diffs r r' set files := by
  refine ⟨?_, fun set r' => completed_of_writeResults ht he hs⟩
  intro e r' h
  rw [writeResults_eq] at h
  rcases bind_eq_error.mp h with htexts | ⟨⟨⟩, stage, htexts, h⟩
  · exact stopped_of_writeTexts ht he htexts
  · rcases bind_eq_error.mp h with hwords | ⟨⟨⟩, r₂, -, h⟩
    · split at hwords
      · rename_i hwants
        exact ⟨_, _, stopped_of_writeWordDiff ht he hwants hs htexts hwords⟩
      · simp at hwords
    · simp at h

/-- A call with all four writes due, stopped by the tool. -/
theorem outcome_of_fatal_answer :
    ∃ e r', writeResults ⟨"linux", .ofString "out", .ofDirectory (.ofString "tests")⟩
        (.ofString "tests/a.html") "" ".txt" (some [97]) (some [98]) (.standard true)
        (.begin .empty .empty (.scripted [.error (.system 5)] [])) = .error e r' ∧
      ∃ done left, Stopped ⟨"linux", .ofString "out", .ofDirectory (.ofString "tests")⟩
        (.ofString "tests/a.html") "" ".txt" (some [97]) (some [98]) (.standard true)
        (.begin .empty .empty (.scripted [.error (.system 5)] [])) r' e done left := by
  obtain ⟨e, r', h⟩ := exists_of_endedBadly (x := writeResults
    ⟨"linux", .ofString "out", .ofDirectory (.ofString "tests")⟩ (.ofString "tests/a.html") ""
    ".txt" (some [97]) (some [98]) (.standard true))
    (r := .begin .empty .empty (.scripted [.error (.system 5)] [])) (by decide +kernel)
  exact ⟨e, r', h, (outcome_of_writeResults (by decide) (by decide)
    (fun _ => toolSpares_scripted rfl)).1 e r' h⟩

end Writer

end Baseline
