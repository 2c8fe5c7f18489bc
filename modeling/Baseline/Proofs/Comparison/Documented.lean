import Baseline.Proofs.Artifact.Inside
import Baseline.Proofs.Artifact.Stopped
import Baseline.Proofs.Comparison.Text
import Baseline.Proofs.Diff.Patch

/-!
# Texts and the baseline that they are judged by

A text is judged by its platform's baseline, else by the one that all platforms share, else
by nothing when nothing is where the platform's should be (`Expects`).  There is one content at
most that it is judged by (`Expects.unique`), and when there is none the comparison fails
before it writes anything.

The verdict says whether the two are the same, and a failure is documented: the two
sides and their diff are left where the results are kept (`verdict_of_text`).
-/

namespace Baseline.TextComparison

open Action FileTree

variable {w : Writer} {test : Path} {output expected : Bytes} {request : Request} {r r' : Run}
  {verdict : Verdict} {t : FileTree}

/-! ### What a text is judged by -/

/-- The content that the output of a test is compared with. -/
inductive Expects (w : Writer) (test : Path) (t : FileTree) : Bytes → Prop
  | platform {data : Bytes} (h : t.readFile (w.baselinePath test extension) = .ok data) :
    Expects w test t data
  | shared {data : Bytes} (hplatform : t.isFile (w.baselinePath test extension) = false)
    (h : t.readFile (Checkout.sharedBaseline test extension) = .ok data) : Expects w test t data
  | missing (hplatform : t.isFile (w.baselinePath test extension) = false)
    (hshared : t.isFile (Checkout.sharedBaseline test extension) = false)
    (h : t.Missing (w.baselinePath test extension)) : Expects w test t []

theorem expectedBaseline_of_platform (h : t.isFile (w.baselinePath test extension) = true) :
    w.expectedBaseline t test extension = w.baselinePath test extension := if_pos h

theorem expectedBaseline_of_shared (hplatform : t.isFile (w.baselinePath test extension) = false)
    (h : t.isFile (Checkout.sharedBaseline test extension) = true) :
    w.expectedBaseline t test extension = Checkout.sharedBaseline test extension :=
  (if_neg (Bool.eq_false_iff.mp hplatform)).trans (if_pos h)

theorem expectedBaseline_of_neither (hplatform : t.isFile (w.baselinePath test extension) = false)
    (hshared : t.isFile (Checkout.sharedBaseline test extension) = false) :
    w.expectedBaseline t test extension = w.baselinePath test extension :=
  (if_neg (Bool.eq_false_iff.mp hplatform)).trans (if_neg (Bool.eq_false_iff.mp hshared))

/-- **What a text is judged by** is what its baseline counts as. -/
theorem expects_iff {data : Bytes} :
    Expects w test t data ↔ t.CountsAs (w.expectedBaseline t test extension) data := by
  constructor
  · intro h
    cases h with
    | platform h =>
      rw [expectedBaseline_of_platform (isFile_of_readFile h)]
      exact Or.inl h
    | shared hplatform h =>
      rw [expectedBaseline_of_shared hplatform (isFile_of_readFile h)]
      exact Or.inl h
    | missing hplatform hshared h =>
      rw [expectedBaseline_of_neither hplatform hshared]
      exact Or.inr ⟨rfl, h⟩
  · intro h
    cases hplatform : t.isFile (w.baselinePath test extension) with
    | true =>
      rw [expectedBaseline_of_platform hplatform] at h
      exact .platform (h.readFile_of_isFile hplatform)
    | false =>
      cases hshared : t.isFile (Checkout.sharedBaseline test extension) with
      | true =>
        rw [expectedBaseline_of_shared hplatform hshared] at h
        exact .shared hplatform (h.readFile_of_isFile hshared)
      | false =>
        rw [expectedBaseline_of_neither hplatform hshared] at h
        obtain ⟨rfl, hmissing⟩ := h.missing_of_not_isFile hplatform
        exact .missing hplatform hshared hmissing

theorem Expects.unique {data data' : Bytes} (h : Expects w test t data)
    (h' : Expects w test t data') : data = data' := (expects_iff.mp h).unique (expects_iff.mp h')

/-! ### What a failure leaves behind -/

/-- The two sides of a comparison and their diff are kept in the files `t'`, inside the output
directory. -/
structure Documented (w : Writer) (test : Path) (output expected : Bytes) (t t' : FileTree) :
    Prop where
  output_kept : output ≠ [] → t'.readFile (w.actualPath test "" extension) = .ok output
  expected_kept : expected ≠ [] → t'.readFile (w.expectedPath test "" extension) = .ok expected
  diff_kept : output ≠ [] → expected ≠ [] → ∃ diff,
    diff = Diff.unified expected output (w.expectedPath test "" extension).text
      (w.actualPath test "" extension).text ∧ diff ≠ [] ∧
    t'.readFile (w.diffPath test "" extension) = .ok diff
  inside : ∀ p ∈ w.textPaths test "" extension, Inside (t.place p) (t.place w.outputDir)

theorem documented_of_writeResults {set : Artifacts} (hne : expected ≠ output)
    (hs : w.ToolSparesResults test "" extension request.wordDiff r)
    (h : w.writeResults test "" extension (some output) (some expected)
      (.standard request.wordDiff) r = .ok set r') :
    Documented w test output expected r.files r'.files := by
  have hread := Writer.readFile_of_writeResults (by decide) (by decide)
    (fun hwants => hs (Writer.words_of_wantsWords hwants)) h
  refine ⟨?_, ?_, ?_, ?_⟩
  · intro houtput
    exact hread _ (w.actual_mem_texts test "" extension (Writer.present_some houtput) _)
  · intro hexpected
    exact hread _ (w.expected_mem_texts test "" extension (Writer.present_some hexpected) _)
  · intro houtput hexpected
    refine ⟨_, rfl, Diff.unified_ne_nil hne _ _, ?_⟩
    refine hread (w.diffPath test "" extension,
      w.lineDiff test "" extension expected output) ?_
    simp [Writer.texts, Writer.present_some houtput, Writer.present_some hexpected, Diffs.standard]
  · intro p hp
    exact Writer.inside_of_mem_resultPaths (by decide) (by decide) (List.mem_append_left _ hp)
      r.files

/-! ### The verdict -/

/-- The verdict on an output against what it is judged by. -/
structure Judged (w : Writer) (test : Path) (output expected : Bytes) (wordDiff : Bool)
    (r r' : Run) (verdict : Verdict) : Prop where
  pass_iff : verdict = [] ↔ output = expected
  missing : output ≠ expected → expected = [] → verdict = [.missingText]
  mismatch : output ≠ expected → expected ≠ [] → verdict = [.textMismatch wordDiff]
  /-- A tool that is called for a word diff has to spare the files. -/
  documented : output ≠ expected → w.ToolSparesResults test "" extension wordDiff r →
    Documented w test output expected r.files r'.files

theorem failure_of_nil (wordDiff : Bool) : failure [] wordDiff = .missingText := rfl

theorem failure_of_ne_nil (h : expected ≠ []) (wordDiff : Bool) :
    failure expected wordDiff = .textMismatch wordDiff := by
  cases expected with
  | nil => exact absurd rfl h
  | cons => rfl

theorem judged_of_compare (h : request.newBaseline = false)
    (hr : compare w test output request r = .ok verdict r') :
    ∃ expected, Expects w test r.files expected ∧
      Judged w test output expected request.wordDiff r r' verdict := by
  obtain ⟨expected, hcounts, hrest⟩ := (compare_eq_ok h).mp hr
  refine ⟨expected, expects_iff.mpr hcounts, ?_⟩
  obtain ⟨rfl, rfl, -⟩ | ⟨hne, rfl, set, hwrite⟩ := hrest
  · exact ⟨iff_of_true rfl rfl, fun hne => absurd rfl hne, fun hne => absurd rfl hne,
      fun hne => absurd rfl hne⟩
  · refine ⟨iff_of_false (List.cons_ne_nil _ _) hne.symm, ?_, ?_, ?_⟩
    · rintro - rfl
      rw [failure_of_nil]
    · intro _ hexpected
      rw [failure_of_ne_nil hexpected]
    · intro _ hs
      -- the run after the look-up has the files and the tools of the run before
      have hdocumented : Documented w test output expected
          (afterLookUp w test request.showSources r).files r'.files :=
        documented_of_writeResults hne hs hwrite
      exact hdocumented

/-- A baseline that can neither be read nor is missing ends the comparison. -/
theorem compare_of_unreadable (h : request.newBaseline = false) {fault : Fault}
    (hplatform : r.files.isFile (w.baselinePath test extension) = false)
    (hshared : r.files.isFile (Checkout.sharedBaseline test extension) = false)
    (hread : r.files.readFile (w.baselinePath test extension) = .error fault)
    (hkind : fault.kind ≠ .notFound) :
    compare w test output request r = .error (.file (w.baselinePath test extension) fault)
      (afterLookUp w test request.showSources r) := by
  have hneither := expectedBaseline_of_neither hplatform hshared
  rw [← hneither] at hread ⊢
  rw [compare_of_comparing h]
  exact bind_of_error (expectedText_of_unreadable hread hkind)

/-- **A text is judged by its baseline**, a failure is documented, and without anything to judge it
by the comparison fails and writes nothing. -/
theorem verdict_of_text (h : request.newBaseline = false) :
    (∀ verdict r', compare w test output request r = .ok verdict r' →
      ∃ expected, Expects w test r.files expected ∧
        (∀ other, Expects w test r.files other → other = expected) ∧
        Judged w test output expected request.wordDiff r r' verdict) ∧
    ∀ fault, r.files.isFile (w.baselinePath test extension) = false →
      r.files.isFile (Checkout.sharedBaseline test extension) = false →
      r.files.readFile (w.baselinePath test extension) = .error fault → fault.kind ≠ .notFound →
      ∃ r', compare w test output request r =
          .error (.file (w.baselinePath test extension) fault) r' ∧
        r.Looks r' ∧ r.Announced r' [] := by
  constructor
  · intro verdict r' hr
    obtain ⟨expected, hexpected, hjudged⟩ := judged_of_compare h hr
    exact ⟨expected, hexpected, fun _ hother => hother.unique hexpected, hjudged⟩
  · intro fault hplatform hshared hread hkind
    exact ⟨_, compare_of_unreadable h hplatform hshared hread hkind,
      Run.reported_looks rfl request.showSources r,
      Run.announced_reported rfl request.showSources r⟩

/-- A run that starts with a text baseline in the directory of its test. -/
def withText : Run :=
  .begin ((FileTree.empty.addDirectory [] (Utf8.encode "tests")).setFile [Utf8.encode "tests"]
    (Utf8.encode "a-expected.txt") [101, 10] false) .empty (.scripted [] [])

/-- An output that differs from a baseline which all platforms share. -/
theorem verdict_of_first_text :
    ∃ r', compare ⟨"linux", .ofString "out", .ofDirectory (.ofString "tests")⟩
        (.ofString "tests/a.html") [97] .plain withText = .ok [.textMismatch false] r' ∧
      Judged ⟨"linux", .ofString "out", .ofDirectory (.ofString "tests")⟩
        (.ofString "tests/a.html") [97] [101, 10] false withText r' [.textMismatch false] := by
  obtain ⟨r', hr⟩ : ∃ r', compare ⟨"linux", .ofString "out", .ofDirectory (.ofString "tests")⟩
      (.ofString "tests/a.html") [97] .plain withText = .ok [.textMismatch false] r' :=
    exists_of_answer? (by decide +kernel)
  obtain ⟨expected, -, hunique, hjudged⟩ := (verdict_of_text rfl).1 _ _ hr
  obtain rfl : [101, 10] = expected :=
    hunique _ (.shared (by decide +kernel) rfl)
  exact ⟨r', hr, hjudged⟩

end Baseline.TextComparison
