import Baseline.Proofs.Comparison.Documented

/-!
# What a failure says of a word diff

The wording of a text mismatch says that a word diff was written when one was asked for
(`saysWordDiff_iff`).  Whether one was written hangs on both sides of the comparison as well:
without an output there is none (`Writer.wroteWordDiff_iff`).  A test that has printed nothing
against a baseline that is not empty is where the two part (`wordDiff_of_message`,
`not_always_truthful`).
-/

namespace Baseline

open Action WordDiff

/-- The wording of a failure says that a word diff was written. -/
def Failure.SaysWordDiff (f : Failure) : Prop :=
  "word diff written".toList <:+: f.message.toList

instance (f : Failure) : Decidable f.SaysWordDiff :=
  inferInstanceAs (Decidable (_ <:+: _))

namespace Writer

variable {w : Writer} {test : Path} {tag extension : String} {actual expected : Option Bytes}
  {diffs : Diffs} {r r' : Run} {set : Artifacts}

/-- Between two runs the word diff of a test was written: the write is among those reported, and
what it left is a page. -/
def WroteWordDiff (w : Writer) (test : Path) (tag : String) (r r' : Run) : Prop :=
  ∃ (writes : List (Path × Nat)) (page : Page), r.Announced r' writes ∧
    (w.wordDiffPath test tag, (Utf8.encode page.html).length) ∈ writes ∧
    r'.files.readFile (w.wordDiffPath test tag) = .ok (Utf8.encode page.html)

/-- What is done before the first write does not count. -/
theorem wroteWordDiff_iff_of_announced {m : Run} (h : r.Announced m []) :
    w.WroteWordDiff test tag r r' ↔ w.WroteWordDiff test tag m r' := by
  rw [Run.Announced, List.append_nil] at h
  unfold WroteWordDiff Run.Announced
  rw [h]

/-- **The word diff is written** when it is wanted and both sides are there. -/
theorem wroteWordDiff_of_wanted (ht : '/' ∉ tag.toList) (he : '/' ∉ extension.toList)
    (h : w.writeResults test tag extension actual expected diffs r = .ok set r')
    (hwants : wantsWords actual expected diffs = true) : w.WroteWordDiff test tag r r' := by
  obtain ⟨stage, htexts, hwords, -⟩ := writeResults_eq_ok h
  rw [if_pos hwants] at hwords
  obtain ⟨page, m, hpage, hwrite⟩ := bind_eq_ok.mp hwords
  obtain ⟨files, hfile, hr'⟩ := Run.write_eq_ok.mp hwrite
  have hbefore := (reached_of_writeTexts ht he htexts).announced
  have hstage := (w.announced_wordDiffPage _ _).of_ok hpage
  have hpagewrite := (Run.announced_write _ _).of_ok hwrite
  refine ⟨_, page, (hbefore.trans hstage).trans hpagewrite, ?_, ?_⟩
  · exact List.mem_append_right _ (List.mem_singleton_self _)
  · rw [hr']
    exact FileTree.readFile_of_writeFile hfile

/-- **It is not written** otherwise, and an older one stays. -/
theorem not_wroteWordDiff (ht : '/' ∉ tag.toList) (he : '/' ∉ extension.toList)
    (h : w.writeResults test tag extension actual expected diffs r = .ok set r')
    (hwants : ¬ wantsWords actual expected diffs = true) :
    ¬ w.WroteWordDiff test tag r r' ∧
      r'.files.content? (r.files.place (w.wordDiffPath test tag)) =
        r.files.content? (r.files.place (w.wordDiffPath test tag)) := by
  obtain ⟨stage, htexts, hwords, -⟩ := writeResults_eq_ok h
  rw [if_neg hwants, pure_apply, EStateM.Result.ok.injEq] at hwords
  obtain ⟨-, rfl⟩ := hwords
  have hreached := reached_of_writeTexts ht he htexts
  have hplace : ∀ p ∈ (w.texts test tag extension actual expected diffs.lines).map Prod.fst,
      r.files.place p ≠ r.files.place (w.wordDiffPath test tag) := by
    intro p hp
    exact w.place_ne_of_mem_textPaths test ht he r.files (mem_textPaths_of_texts hp)
  refine ⟨?_, hreached.frame.content? hplace⟩
  rintro ⟨writes, page, hwrites, hmem, -⟩
  obtain rfl := List.append_cancel_left (hwrites.symm.trans hreached.announced)
  obtain ⟨pd, hpd, hsized⟩ := List.mem_map.mp hmem
  exact hplace pd.1 (List.mem_map_of_mem hpd) (congrArg r.files.place (Prod.mk.inj hsized).1)

end Writer

namespace TextComparison

variable {w : Writer} {test : Path} {output expected : Bytes} {request : Request} {r r' : Run}
  {verdict : Verdict} {f : Failure} {wordDiff : Bool}

/-- A failure says so when a word diff was asked for and there is a baseline. -/
theorem saysWordDiff_iff :
    (failure expected wordDiff).SaysWordDiff ↔ expected ≠ [] ∧ wordDiff = true := by
  have hmissing : ¬ Failure.missingText.SaysWordDiff := by decide +kernel
  have hmismatch : ∀ b, (Failure.textMismatch b).SaysWordDiff ↔ b = true := by decide +kernel
  cases expected with
  | nil => simpa [failure] using hmissing
  | cons b expected => simpa [failure] using hmismatch wordDiff

theorem wantsWords_standard (he : expected ≠ []) :
    Writer.wantsWords (some output) (some expected) (.standard true) = true ↔ output ≠ [] := by
  cases output <;> simp [Writer.wantsWords, Writer.present, Diffs.standard, he]

theorem eq_nil_of_promoting (hnew : request.newBaseline = true)
    (h : compare w test output request r = .ok verdict r') : verdict = [] := by
  rw [compare_of_promoting hnew] at h
  obtain ⟨path, m, -, hdone⟩ := bind_eq_ok.mp h
  rw [pure_apply, EStateM.Result.ok.injEq] at hdone
  exact hdone.1.symm

/-- **A comparison that says it has written a word diff** has done so exactly when the test has
printed something; else whatever was there before is there still. -/
theorem wordDiff_of_message (h : compare w test output request r = .ok verdict r')
    (hf : f ∈ verdict) (hsaid : f.SaysWordDiff) :
    (w.WroteWordDiff test "" r r' ↔ output ≠ []) ∧
      (output = [] → r'.files.content? (r.files.place (w.wordDiffPath test "")) =
        r.files.content? (r.files.place (w.wordDiffPath test ""))) := by
  have hnew : request.newBaseline = false := by
    cases hnew : request.newBaseline with
    | false => rfl
    | true =>
      rw [eq_nil_of_promoting hnew h] at hf
      simp at hf
  obtain ⟨expected, -, ⟨-, rfl, -⟩ | ⟨-, rfl, set, hwrite⟩⟩ := (compare_eq_ok hnew).mp h
  · simp at hf
  · obtain rfl := List.mem_singleton.mp hf
    obtain ⟨hne, hwanted⟩ := saysWordDiff_iff.mp hsaid
    rw [hwanted] at hwrite
    have hlooked : r.Announced (afterLookUp w test request.showSources r) [] :=
      Run.announced_reported rfl _ r
    rw [Writer.wroteWordDiff_iff_of_announced hlooked]
    by_cases houtput : output = []
    · have hwants := mt (wantsWords_standard hne).mp (not_not_intro houtput)
      obtain ⟨hnot, hkept⟩ := Writer.not_wroteWordDiff (by decide) (by decide) hwrite hwants
      exact ⟨iff_of_false hnot (not_not_intro houtput), fun _ => hkept⟩
    · have hwants := (wantsWords_standard hne).mpr houtput
      have hwrote := Writer.wroteWordDiff_of_wanted (by decide) (by decide) hwrite hwants
      exact ⟨iff_of_true hwrote houtput, fun hnil => absurd hnil houtput⟩

/-- The comparison of an output with a baseline, a word diff being asked for. -/
def comparingWords (output : Bytes) : Action Verdict :=
  compare ⟨"linux", .ofString "out", .ofDirectory (.ofString "tests")⟩ (.ofString "tests/a.html")
    output ⟨false, none, none, true, false⟩

/-- A test that prints something gets its word diff. -/
theorem wordDiff_of_first_message :
    ∃ r', comparingWords [97] withText = .ok [.textMismatch true] r' ∧
      (Failure.textMismatch true).SaysWordDiff ∧
      Writer.WroteWordDiff ⟨"linux", .ofString "out", .ofDirectory (.ofString "tests")⟩
        (.ofString "tests/a.html") "" withText r' := by
  obtain ⟨r', hr⟩ : ∃ r', comparingWords [97] withText = .ok [.textMismatch true] r' :=
    exists_of_answer? (by decide +kernel)
  have hsaid : (Failure.textMismatch true).SaysWordDiff := by decide +kernel
  have hwrote := wordDiff_of_message hr (List.mem_singleton_self _) hsaid
  exact ⟨r', hr, hsaid, hwrote.1.mpr (by decide)⟩

/-- **Not every comparison that says so has**: a test that prints nothing gets no word diff. -/
theorem not_always_truthful :
    ¬ ∀ (w : Writer) (test : Path) (output : Bytes) (request : Request) (r r' : Run)
      (verdict : Verdict) (f : Failure), compare w test output request r = .ok verdict r' →
      f ∈ verdict → f.SaysWordDiff → w.WroteWordDiff test "" r r' := by
  intro h
  obtain ⟨r', hr⟩ : ∃ r', comparingWords [] withText = .ok [.textMismatch true] r' :=
    exists_of_answer? (by decide +kernel)
  obtain ⟨writes, page, -, -, hread⟩ := h _ _ _ _ _ _ _ _ hr (List.mem_singleton_self _)
    (by decide +kernel)
  have hcontent := FileTree.content?_of_readFile hread
  rw [← endOf_ok hr] at hcontent
  have hnothing : (endOf (comparingWords [] withText)).files.content?
      ((endOf (comparingWords [] withText)).files.place (.ofString "out/a-wdiff.html")) = none := by
    decide +kernel
  exact absurd (hnothing.symm.trans hcontent) (by simp)

end TextComparison

end Baseline
