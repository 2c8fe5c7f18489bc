import Baseline.Proofs.Artifact.Writing
import Baseline.Proofs.Diff.Identical

/-!
# What a call leaves behind

A call that ends well has kept exactly what it was given: the output and the
baseline byte for byte, their line diff and the page of their word diff, each
exactly when it is due, at four different places, and nothing else has changed
(`Writer.Persisted`, `persisted_of_writeResults`).

The three texts are written first and read the same to the end
(`readFile_texts`), because the page that comes after them has a place of its
own and the tool spares the files.
-/

namespace Baseline

open Action WordDiff

namespace Writer

/-- Both sides of a comparison are there, with something in them. -/
structure BothSides (actual expected : Option Bytes) (a e : Bytes) : Prop where
  actual_eq : actual = some a
  actual_ne : a ≠ []
  expected_eq : expected = some e
  expected_ne : e ≠ []

theorem bothSides_iff {actual expected : Option Bytes} {a e : Bytes} :
    BothSides actual expected a e ↔ present actual = some a ∧ present expected = some e := by
  rw [present_eq_some, present_eq_some]
  exact ⟨fun h => ⟨⟨h.1, h.2⟩, h.3, h.4⟩, fun h => ⟨h.1.1, h.1.2, h.2.1, h.2.2⟩⟩

theorem exists_bothSides_iff {actual expected : Option Bytes} :
    (∃ a e, BothSides actual expected a e) ↔
      (present actual).isSome = true ∧ (present expected).isSome = true := by
  simp only [bothSides_iff, exists_and_left, exists_and_right, Option.isSome_iff_exists]

/-- What a call that ends well has done between the runs `r` and `r'`. -/
structure Persisted (w : Writer) (test : Path) (tag extension : String)
    (actual expected : Option Bytes) (diffs : Diffs) (r r' : Run) (set : Artifacts) : Prop where
  /-- The output is kept when there is one with something in it. -/
  actual_iff : ∀ p, set.actual = some p ↔
    p = w.actualPath test tag extension ∧ ∃ a, actual = some a ∧ a ≠ []
  /-- It is kept as it is. -/
  actual_read : ∀ a, actual = some a → a ≠ [] →
    r'.files.readFile (w.actualPath test tag extension) = .ok a
  /-- The baseline is kept when there is one with something in it. -/
  expected_iff : ∀ p, set.expected = some p ↔
    p = w.expectedPath test tag extension ∧ ∃ e, expected = some e ∧ e ≠ []
  /-- It is kept as it is. -/
  expected_read : ∀ e, expected = some e → e ≠ [] →
    r'.files.readFile (w.expectedPath test tag extension) = .ok e
  /-- There is a line diff when both sides are there and one is wanted. -/
  diff_iff : ∀ p, set.diff = some p ↔
    p = w.diffPath test tag extension ∧ diffs.lines = true ∧ ∃ a e, BothSides actual expected a e
  /-- It is the unified diff from the baseline to the output, under the names of their artifacts. -/
  diff_read : ∀ a e, BothSides actual expected a e → diffs.lines = true →
    r'.files.readFile (w.diffPath test tag extension) =
      .ok (Diff.unified e a (w.expectedPath test tag extension).text
        (w.actualPath test tag extension).text)
  /-- It is empty when the two sides are the same. -/
  diff_same : ∀ a, BothSides actual expected a a → diffs.lines = true →
    r'.files.readFile (w.diffPath test tag extension) = .ok []
  /-- There is a word diff when both sides are there and one is wanted. -/
  words_iff : ∀ p, set.wordDiff = some p ↔
    p = w.wordDiffPath test tag ∧ diffs.words = true ∧ ∃ a e, BothSides actual expected a e
  /-- It is the page that the tool's answer leads to, the tool being called on a run in which
  nothing but the texts before it has been written, or the page of a missing tool when that is
  known. -/
  words_read : ∀ a e, BothSides actual expected a e → diffs.words = true →
    ∃ stage page,
      r.FileWork (w.textPaths test tag extension) (w.artifactDir test).ancestors stage ∧
      Page.of? r.availability.isAvailable
        (w.toolAnswer stage (w.expectedPath test tag extension) (w.actualPath test tag extension)) =
        some page ∧
      r'.files.readFile (w.wordDiffPath test tag) = .ok (Utf8.encode page.html)
  /-- The four are different paths. -/
  distinct : (w.resultPaths test tag extension).Nodup
  /-- They lead to different places, so that none is written over. -/
  apart : ((w.resultPaths test tag extension).map r.files.place).Nodup
  /-- No other file changes, and nothing goes away. -/
  frame : r.files.ChangesOnly set.paths (w.artifactDir test).ancestors r'.files

/-! ### The parts of a call that ends well -/

variable {w : Writer} {test : Path} {tag extension : String} {actual expected : Option Bytes}
  {diffs : Diffs} {r r' : Run} {set : Artifacts}

theorem writeResults_eq_ok
    (h : w.writeResults test tag extension actual expected diffs r = .ok set r') :
    ∃ stage, w.writeTexts test tag extension actual expected diffs.lines r = .ok () stage ∧
      (if wantsWords actual expected diffs then w.writeWordDiff test tag extension
        else pure ()) stage = .ok () r' ∧
      set = w.written test tag extension actual expected diffs := by
  rw [writeResults_eq] at h
  obtain ⟨⟨⟩, stage, htexts, h⟩ := bind_eq_ok.mp h
  obtain ⟨⟨⟩, r₂, hwords, h⟩ := bind_eq_ok.mp h
  rw [pure_apply] at h
  obtain ⟨rfl, rfl⟩ : w.written test tag extension actual expected diffs = set ∧ r₂ = r' := by
    simpa using h
  exact ⟨stage, htexts, hwords, rfl⟩

/-- The texts read as they were written when the word-diff stage is reached. -/
theorem readFile_texts (ht : '/' ∉ tag.toList) (he : '/' ∉ extension.toList) {stage : Run}
    (htexts : w.writeTexts test tag extension actual expected diffs.lines r = .ok () stage) :
    ∀ pd ∈ w.texts test tag extension actual expected diffs.lines,
      stage.files.readFile pd.1 = .ok pd.2 := by
  obtain ⟨⟨⟩, r₁, -, hall⟩ := bind_eq_ok.mp htexts
  refine Run.readFile_of_writeAll hall ?_
  have hsub := (w.map_fst_texts_sublist test tag extension actual expected diffs.lines).trans
    (List.sublist_append_left _ [w.wordDiffPath test tag])
  have hnodup := (w.nodup_resultPlaces test ht he r₁.files).sublist (hsub.map r₁.files.place)
  rwa [List.map_map] at hnodup

/-- At the word-diff stage the files have moved by the texts only. -/
theorem fileWork_of_writeTexts {stage : Run}
    (htexts : w.writeTexts test tag extension actual expected diffs.lines r = .ok () stage) :
    r.FileWork (w.textPaths test tag extension) (w.artifactDir test).ancestors stage :=
  (w.writeTexts_fileWork test tag extension actual expected diffs.lines
    (fun _ hp => mem_textPaths_of_texts hp) fun _ hq => hq).of_ok htexts

/-- The stage itself leaves them where they are, when the tool spares the files. -/
theorem files_endOf_of_toolSparesResults
    (hs : w.ToolSparesResults test tag extension (wantsWords actual expected diffs) r) {stage : Run}
    (htexts : w.writeTexts test tag extension actual expected diffs.lines r = .ok () stage)
    (hwants : wantsWords actual expected diffs = true) :
    (endOf (w.wordDiffPage (w.expectedPath test tag extension)
      (w.actualPath test tag extension) stage)).files = stage.files :=
  files_endOf_of_toolSpares (hs hwants)
    ((fileWork_of_writeTexts htexts).mono (fun _ hp => List.mem_append_left _ hp) fun _ hq => hq)

/-- The word diff of a call that ends well, when one is due. -/
theorem page_of_words
    (hs : w.ToolSparesResults test tag extension (wantsWords actual expected diffs) r) {stage : Run}
    (htexts : w.writeTexts test tag extension actual expected diffs.lines r = .ok () stage)
    (hwants : wantsWords actual expected diffs = true)
    (h : w.writeWordDiff test tag extension stage = .ok () r') :
    ∃ page, Page.of? stage.availability.isAvailable
        (w.toolAnswer stage (w.expectedPath test tag extension) (w.actualPath test tag extension)) =
        some page ∧
      stage.files.writeFile (w.wordDiffPath test tag) (Utf8.encode page.html) = .ok r'.files := by
  have hend := files_endOf_of_toolSparesResults hs htexts hwants
  obtain ⟨page, r₂, hpage, hwrite⟩ := bind_eq_ok.mp h
  obtain ⟨files, hfile, rfl⟩ := Run.write_eq_ok.mp hwrite
  refine ⟨page, page_of_wordDiffPage hpage, ?_⟩
  rw [endOf_ok hpage] at hend
  rw [← hend]
  exact hfile

/-- What reads in the word-diff stage reads to the end of the call, unless it is where the word
diff goes. -/
theorem readFile_of_stage
    (hs : w.ToolSparesResults test tag extension (wantsWords actual expected diffs) r) {stage : Run}
    (htexts : w.writeTexts test tag extension actual expected diffs.lines r = .ok () stage)
    (h : (if wantsWords actual expected diffs then w.writeWordDiff test tag extension
      else pure ()) stage = .ok () r') {p : Path} {data : Bytes}
    (hp : r.files.place p ≠ r.files.place (w.wordDiffPath test tag))
    (hr : stage.files.readFile p = .ok data) : r'.files.readFile p = .ok data := by
  split at h
  · rename_i hwants
    have hchanges := (fileWork_of_writeTexts htexts).files
    obtain ⟨page, -, hfile⟩ := page_of_words hs htexts hwants h
    refine (FileTree.ChangesOnly.of_writeFile hfile).readFile hr fun q hq he => hp ?_
    rw [List.mem_singleton.mp hq, hchanges.place, hchanges.place] at he
    exact he.symm
  · obtain rfl : stage = r' := by simpa using h
    exact hr

/-- **The texts read as they were written** to the end of a call, if the tool that is called for a
word diff spares the files. -/
theorem readFile_of_writeResults (ht : '/' ∉ tag.toList) (he : '/' ∉ extension.toList)
    (hs : w.ToolSparesResults test tag extension (wantsWords actual expected diffs) r)
    (h : w.writeResults test tag extension actual expected diffs r = .ok set r') :
    ∀ pd ∈ w.texts test tag extension actual expected diffs.lines,
      r'.files.readFile pd.1 = .ok pd.2 := by
  intro pd hpd
  obtain ⟨stage, htexts, hwords, -⟩ := writeResults_eq_ok h
  exact readFile_of_stage hs htexts hwords
    (w.place_ne_of_mem_textPaths test ht he r.files
      (mem_textPaths_of_texts (List.mem_map_of_mem hpd)))
    (readFile_texts ht he htexts pd hpd)

/-! ### The whole call -/

theorem diff_written : ∀ p, (w.written test tag extension actual expected diffs).diff = some p ↔
    p = w.diffPath test tag extension ∧ diffs.lines = true ∧
      ∃ a e, BothSides actual expected a e := by
  intro p
  rw [written, exists_bothSides_iff, Option.ite_none_right_eq_some, Bool.and_eq_true,
    Bool.and_eq_true, Option.some.injEq]
  constructor
  · rintro ⟨⟨hboth, hlines⟩, hp⟩
    exact ⟨hp.symm, hlines, hboth⟩
  · rintro ⟨hp, hlines, hboth⟩
    exact ⟨⟨hboth, hlines⟩, hp.symm⟩

theorem words_written :
    ∀ p, (w.written test tag extension actual expected diffs).wordDiff = some p ↔
      p = w.wordDiffPath test tag ∧ diffs.words = true ∧
        ∃ a e, BothSides actual expected a e := by
  intro p
  rw [written, exists_bothSides_iff, Option.ite_none_right_eq_some, wantsWords, Bool.and_eq_true,
    Bool.and_eq_true, Option.some.injEq]
  constructor
  · rintro ⟨⟨hboth, hwords⟩, hp⟩
    exact ⟨hp.symm, hwords, hboth⟩
  · rintro ⟨hp, hwords, hboth⟩
    exact ⟨⟨hboth, hwords⟩, hp.symm⟩

/-- **A call that ends well keeps what it was given**, if the tool that is called for a word diff
spares the files. -/
theorem persisted_of_writeResults (ht : '/' ∉ tag.toList) (he : '/' ∉ extension.toList)
    (hs : w.ToolSparesResults test tag extension (wantsWords actual expected diffs) r)
    (h : w.writeResults test tag extension actual expected diffs r = .ok set r') :
    w.Persisted test tag extension actual expected diffs r r' set := by
  have hframe := changesOnly_of_writeResults hs
  rw [endOf_ok h] at hframe
  obtain ⟨stage, htexts, hwords, rfl⟩ := writeResults_eq_ok h
  have hwork := fileWork_of_writeTexts htexts
  have hkeep := readFile_of_writeResults ht he hs h
  have hdiff : ∀ a e, BothSides actual expected a e → diffs.lines = true →
      r'.files.readFile (w.diffPath test tag extension) =
        .ok (w.lineDiff test tag extension e a) := by
    intro a e hboth hlines
    obtain ⟨ha, hx⟩ := bothSides_iff.mp hboth
    refine hkeep (w.diffPath test tag extension, w.lineDiff test tag extension e a) ?_
    simp [texts, ha, hx, hlines]
  have happart := w.nodup_resultPlaces test ht he r.files
  refine
    { actual_iff := ?_, actual_read := ?_, expected_iff := ?_, expected_read := ?_,
      diff_iff := diff_written, diff_read := hdiff, diff_same := ?_, words_iff := words_written,
      words_read := ?_, distinct := ?_, apart := happart, frame := hframe }
  · intro p
    simp only [written, Option.map_eq_some_iff, present_eq_some]
    exact ⟨fun ⟨a, ha, hp⟩ => ⟨hp.symm, a, ha⟩, fun ⟨hp, a, ha⟩ => ⟨a, ha, hp.symm⟩⟩
  · intro a ha hne
    refine hkeep (w.actualPath test tag extension, a) ?_
    simp [texts, present_eq_some.mpr ⟨ha, hne⟩]
  · intro p
    simp only [written, Option.map_eq_some_iff, present_eq_some]
    exact ⟨fun ⟨e, he, hp⟩ => ⟨hp.symm, e, he⟩, fun ⟨hp, e, he⟩ => ⟨e, he, hp.symm⟩⟩
  · intro e he hne
    refine hkeep (w.expectedPath test tag extension, e) ?_
    simp [texts, present_eq_some.mpr ⟨he, hne⟩]
  · intro a hboth hlines
    rw [hdiff a a hboth hlines, lineDiff, Diff.unified_self]
  · intro a e hboth hwant
    obtain ⟨ha, hx⟩ := bothSides_iff.mp hboth
    have hwants : wantsWords actual expected diffs = true := by simp [wantsWords, ha, hx, hwant]
    rw [if_pos hwants] at hwords
    obtain ⟨page, hpage, hfile⟩ := page_of_words hs htexts hwants hwords
    refine ⟨stage, page, hwork, ?_, FileTree.readFile_of_writeFile hfile⟩
    rw [← hwork.availability]
    exact hpage
  · exact List.Pairwise.of_map _ (fun a b hab hplace => hab (congrArg _ hplace)) happart

/-- A first call with both sides and both diffs, answered by the tool. -/
theorem persisted_of_first_call :
    ∃ set r', writeResults ⟨"linux", .ofString "out", .ofDirectory (.ofString "tests")⟩
        (.ofString "tests/a.html") "" ".txt" (some [97]) (some [98]) (.standard true)
        (.begin .empty .empty (.scripted [.ok [99]] [])) = .ok set r' ∧
      Persisted ⟨"linux", .ofString "out", .ofDirectory (.ofString "tests")⟩
        (.ofString "tests/a.html") "" ".txt" (some [97]) (some [98]) (.standard true)
        (.begin .empty .empty (.scripted [.ok [99]] [])) r' set := by
  obtain ⟨set, r', h⟩ := exists_of_endedWell (x := writeResults
    ⟨"linux", .ofString "out", .ofDirectory (.ofString "tests")⟩ (.ofString "tests/a.html") ""
    ".txt" (some [97]) (some [98]) (.standard true))
    (r := .begin .empty .empty (.scripted [.ok [99]] [])) (by decide +kernel)
  exact ⟨set, r', h, persisted_of_writeResults (by decide) (by decide)
    (fun _ => toolSpares_scripted rfl) h⟩

end Writer

end Baseline
