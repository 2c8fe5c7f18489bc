import Baseline.Proofs.Comparison.Frame

/-!
# What a pass says

A text passes exactly when its baseline counts as the output
(`TextComparison.exists_pass_iff`), and a baseline that is missing counts as
empty.  An image passes exactly when its checksum baseline reads as its checksum
and an image baseline is there (`ChecksumComparison.exists_pass_iff`); a missing
checksum counts as empty too, but the checksum of an image never is.

So a test that passes has all its baselines, or it is a text test that wrote
nothing and nothing is where its baseline should be (`Engine.baselines_of_pass`).
Such a test does pass (`Engine.pass_without_baseline`).
-/

namespace Baseline

open Action

namespace TextComparison

variable {w : Writer} {test : Path} {output : Bytes} {request : Request} {r r' : Run}

/-- **A text passes** exactly when its baseline counts as the output. -/
theorem exists_pass_iff (h : request.newBaseline = false) :
    (∃ r', compare w test output request r = .ok [] r') ↔
      r.files.CountsAs (w.expectedBaseline r.files test extension) output := by
  constructor
  · rintro ⟨r', hr⟩
    obtain ⟨expected, hcounts, ⟨rfl, -, -⟩ | ⟨-, hverdict, -⟩⟩ := (compare_eq_ok h).mp hr
    · exact hcounts
    · simp at hverdict
  · intro hcounts
    exact ⟨_, (compare_eq_ok h).mpr ⟨output, hcounts, Or.inl ⟨rfl, rfl, rfl⟩⟩⟩

end TextComparison

namespace ChecksumComparison

variable {w : Writer} {test : Path} {request : Request} {r r' : Run}

theorem ne_nil_of_recordedChecksum {data : Bytes} (h : recordedChecksum data ≠ "") : data ≠ [] := by
  rintro rfl
  exact h (by decide)

/-- **An image passes** exactly when its checksum baseline reads as its checksum and there is an
image baseline. -/
theorem exists_pass_iff (h : request.newBaseline = false) :
    (∃ r', compare w test request r = .ok [] r') ↔
      ∃ actual data, actualChecksum request r = .ok (some actual) r ∧ actual ≠ "" ∧
        r.files.readFile (w.expectedBaseline r.files test extension) = .ok data ∧
        recordedChecksum data = actual ∧
        r.files.isFile (w.expectedBaseline r.files test imageExtension) = true := by
  constructor
  · rintro ⟨r', hr⟩
    rcases (compare_eq_ok h).mp hr with
      ⟨-, hverdict, -⟩ | ⟨actual, data, hactual, hcounts, ⟨hright, -, -⟩ | ⟨failure, -, hverdict, -⟩⟩
    · simp at hverdict
    · obtain ⟨hthere, hne, heq⟩ := failure?_eq_none.mp hright
      exact ⟨actual, data, hactual, heq ▸ hne, hcounts.readFile (ne_nil_of_recordedChecksum hne),
        heq, hthere⟩
    · simp at hverdict
  · rintro ⟨actual, data, hactual, hne, hread, heq, hthere⟩
    have hright : wrong? w test r.files actual data = none :=
      failure?_eq_none.mpr ⟨hthere, heq ▸ hne, heq⟩
    exact ⟨_, (compare_eq_ok h).mpr
      (Or.inr ⟨actual, data, hactual, Or.inl hread, Or.inl ⟨hright, rfl, rfl⟩⟩)⟩

end ChecksumComparison

namespace Engine

/-- **A test that passes has its baselines**, or it is a text test that wrote nothing and has
none. -/
theorem baselines_of_pass (e : Engine) {w : Writer} {test : Path} {output : Bytes}
    {request : Request} {r r' : Run} (h : request.newBaseline = false)
    (hr : e.compare w test output request r = .ok [] r') :
    (∀ suffix ∈ e.extensions, r.files.isFile (w.expectedBaseline r.files test suffix) = true) ∨
      e = .text ∧ output = [] ∧
        r.files.Missing (w.expectedBaseline r.files test TextComparison.extension) := by
  cases e with
  | text =>
    rcases (TextComparison.exists_pass_iff h).mp ⟨r', hr⟩ with hread | ⟨rfl, hmissing⟩
    · refine Or.inl fun suffix hs => ?_
      rw [List.mem_singleton.mp hs]
      exact FileTree.isFile_of_readFile hread
    · exact Or.inr ⟨rfl, rfl, hmissing⟩
  | checksum =>
    obtain ⟨actual, data, -, -, hread, -, hthere⟩ :=
      (ChecksumComparison.exists_pass_iff h).mp ⟨r', hr⟩
    refine Or.inl fun suffix hs => ?_
    rcases List.mem_cons.mp hs with rfl | hs
    · exact FileTree.isFile_of_readFile hread
    · rw [List.mem_singleton.mp hs]
      exact hthere

/-- A run that starts with the two baselines of an image in the directory of its test. -/
def withBaselines : Run :=
  .begin (((FileTree.empty.addDirectory [] (Utf8.encode "tests")).setFile
    [Utf8.encode "tests"] (Utf8.encode "a-expected.checksum") [32, 97, 98, 10] false).setFile
    [Utf8.encode "tests"] (Utf8.encode "a-expected.png") [1] false) .empty (.scripted [] [])

/-- An image of that checksum, blanks aside, passes, and it has both baselines. -/
theorem baselines_of_first_pass :
    ∃ r', Engine.checksum.compare ⟨"linux", .ofString "out", .ofDirectory (.ofString "tests")⟩
        (.ofString "tests/a.html") [] ⟨false, none, some "ab", false, false⟩ withBaselines =
          .ok [] r' ∧
      ∀ suffix ∈ Engine.checksum.extensions, withBaselines.files.isFile (Writer.expectedBaseline
        ⟨"linux", .ofString "out", .ofDirectory (.ofString "tests")⟩ withBaselines.files
        (.ofString "tests/a.html") suffix) = true := by
  obtain ⟨r', hr⟩ : ∃ r', Engine.checksum.compare
      ⟨"linux", .ofString "out", .ofDirectory (.ofString "tests")⟩ (.ofString "tests/a.html") []
      ⟨false, none, some "ab", false, false⟩ withBaselines = .ok [] r' :=
    exists_of_answer? (by decide +kernel)
  exact ⟨r', hr, (baselines_of_pass .checksum rfl hr).resolve_right (by simp)⟩

/-- **A pass needs no baseline** when a text test wrote nothing: with no file at all, it passes. -/
theorem pass_without_baseline :
    ¬ ∀ (e : Engine) (w : Writer) (test : Path) (output : Bytes) (request : Request) (r r' : Run),
      request.newBaseline = false → e.compare w test output request r = .ok [] r' →
        ∀ suffix ∈ e.extensions, r.files.isFile (w.expectedBaseline r.files test suffix) = true := by
  intro h
  obtain ⟨r', hr⟩ : ∃ r', Engine.text.compare
      ⟨"linux", .ofString "out", .ofDirectory (.ofString "tests")⟩ (.ofString "tests/a.html") []
      .plain (.begin .empty .empty (.scripted [] [])) = .ok [] r' :=
    exists_of_answer? (by decide +kernel)
  have hthere := h .text _ _ _ _ _ _ rfl hr TextComparison.extension (by decide)
  revert hthere
  decide +kernel

end Engine

end Baseline
