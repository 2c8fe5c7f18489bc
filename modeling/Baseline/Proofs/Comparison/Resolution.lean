import Baseline.CommandLine
import Baseline.Proofs.Artifact.Saving
import Baseline.Proofs.Comparison.Passing

/-!
# What a promotion is good for

The place that a promotion writes and the place that a comparison looks at are
worked out apart.  They agree: what was promoted is what the test is compared with
from then on, and promoting it again changes nothing (`Writer.Saved`).  For a
text that is all a pass needs.  So the output that was promoted, by a comparison
or on the command line, passes in the files that are left, and the pass leaves
them as they are (`resolution_of_promotion`).
-/

namespace Baseline

open Action

namespace TextComparison

/-- An output passes whenever the files are these, and they stay so. -/
def PassesIn (w : Writer) (test : Path) (output : Bytes) (t : FileTree) : Prop :=
  ∀ (request : Request) (r : Run), request.newBaseline = false → r.files = t →
    ∃ r', compare w test output request r = .ok [] r' ∧ r'.files = t

variable {w : Writer} {test : Path} {output : Bytes} {request : Request} {r r' : Run}

/-- **What is saved passes.** -/
theorem passesIn_of_saved {path : Path} (h : w.Saved test output extension path r) :
    PassesIn w test output r.files := by
  intro request s hnew hfiles
  have hcounts : s.files.CountsAs (w.expectedBaseline s.files test extension) output := by
    rw [hfiles, h.resolved]
    exact Or.inl h.read
  obtain ⟨s', hs⟩ := (exists_pass_iff hnew).mpr hcounts
  exact ⟨s', hs, (looks_of_compare hnew hs (Or.inl rfl)).files.trans hfiles⟩

theorem passesIn_of_saveBaseline {path : Path}
    (h : w.saveBaseline test output extension r = .ok path r') :
    PassesIn w test output r'.files := passesIn_of_saved (Writer.saved_of_saveBaseline h)

theorem passesIn_of_promoting (h : request.newBaseline = true) {verdict : Verdict}
    (hr : compare w test output request r = .ok verdict r') :
    PassesIn w test output r'.files := by
  rw [compare_of_promoting h] at hr
  obtain ⟨path, m, hsave, hdone⟩ := bind_eq_ok.mp hr
  obtain ⟨-, rfl⟩ : [] = verdict ∧ m = r' := by simpa using hdone
  exact passesIn_of_saveBaseline hsave

end TextComparison

namespace CommandLine

open TextComparison (PassesIn)

/-- Making a file the baseline of a test reads it and saves what it holds. -/
theorem rebaseline_eq_ok {c : Config} {test actual path : Path} {suffix : String} {r r' : Run} :
    rebaseline c test actual suffix r = .ok path r' ↔
      ∃ data, r.files.readFile actual = .ok data ∧
        (writerOf c).saveBaseline (testFile c test) data suffix r = .ok path r' := by
  show EStateM.bind (Work.readActual actual) _ r = _ ↔ _
  unfold EStateM.bind Work.readActual
  cases hread : r.files.readFile actual with
  | error fault => simp
  | ok data =>
    simp only [Except.ok.injEq, exists_eq_left', Work.ofAction]
    cases (writerOf c).saveBaseline (testFile c test) data suffix r with
    | ok v s => simp
    | error e s => simp

/-- A file that was made the baseline of a test was saved as it is. -/
theorem saved_of_rebaseline {i : Invocation} {files : FileTree} {env : Environment} {tools : Tools}
    {now : Timestamp} {c : Config} {test actual : Path} {suffix : String} {data : Bytes}
    (htask : i.task = .rebaseline test actual suffix) (hc : i.settings.resolve files env = .ok c)
    (hdata : files.readFile actual = .ok data) (hcode : (execute i files env tools now).code = 0) :
    ∃ path r r', (writerOf c).saveBaseline (testFile c test) data suffix r = .ok path r' ∧
      (execute i files env tools now).files = r'.files := by
  unfold execute at hcode ⊢
  simp only [hc, perform, htask] at hcode ⊢
  split at hcode
  · simp at hcode
  · rename_i path r' hdone
    obtain ⟨data', hdata', hsave⟩ := rebaseline_eq_ok.mp hdone
    obtain rfl : data = data' := Except.ok.inj (hdata.symm.trans hdata')
    exact ⟨path, _, r', hsave, rfl⟩

end CommandLine

namespace TextComparison

open CommandLine (writerOf testFile Invocation)

/-- **What was promoted is what a test is compared with**: it is found where it was saved, saving
it again changes nothing, and a text passes after a comparison or a command has promoted it. -/
theorem resolution_of_promotion (w : Writer) (test : Path) (data : Bytes) :
    (∀ suffix path r r', w.saveBaseline test data suffix r = .ok path r' →
      w.Saved test data suffix path r') ∧
    (∀ request r verdict r', request.newBaseline = true →
      compare w test data request r = .ok verdict r' → PassesIn w test data r'.files) ∧
    ∀ args i files env tools now c name actual, Invocation.parse args = .ok i →
      i.task = .rebaseline name actual ".txt" → i.settings.resolve files env = .ok c →
      writerOf c = w → testFile c name = test → files.readFile actual = .ok data →
      (CommandLine.run args files env tools now).code = 0 →
        PassesIn w test data (CommandLine.run args files env tools now).files := by
  refine ⟨fun _ _ _ _ h => Writer.saved_of_saveBaseline h,
    fun _ _ _ _ hnew h => passesIn_of_promoting hnew h, ?_⟩
  intro args i files env tools now c name actual hi htask hc hw htest hdata hcode
  have hrun : CommandLine.run args files env tools now =
      CommandLine.execute i files env tools now := by
    unfold CommandLine.run
    rw [hi]
  rw [hrun] at hcode ⊢
  obtain ⟨path, r, r', hsave, hfiles⟩ := CommandLine.saved_of_rebaseline htask hc hdata hcode
  rw [hfiles, ← hw, ← htest]
  exact passesIn_of_saveBaseline hsave

/-- A command line that makes a file the baseline of a test. -/
def promoteWords : List Bytes :=
  ["rebaseline", "--platform", "linux", "--layout-tests", "tests", "--output-dir", "out", "a.html",
    "--actual", "a.txt"].map Utf8.encode

/-- What that command line asks for. -/
def promoteInvocation : CommandLine.Invocation :=
  ⟨false, .rebaseline (.ofString "a.html") (.ofString "a.txt") ".txt",
    ⟨none, some "linux", some (.ofString "tests"), some (.ofString "out"), none, none, none, none⟩⟩

/-- An output promoted by the writer, by a comparison and by that command line. -/
theorem resolution_of_first_promotion :
    ∃ path r verdict r', Writer.saveBaseline
        ⟨"linux", .ofString "out", .ofDirectory (.ofString "tests")⟩ (.ofString "tests/a.html")
        [97] ".txt" (.begin .empty .empty (.scripted [] [])) = .ok path r ∧
      Writer.Saved ⟨"linux", .ofString "out", .ofDirectory (.ofString "tests")⟩
        (.ofString "tests/a.html") [97] ".txt" path r ∧
      compare ⟨"linux", .ofString "out", .ofDirectory (.ofString "tests")⟩
        (.ofString "tests/a.html") [97] ⟨true, none, none, false, false⟩
        (.begin .empty .empty (.scripted [] [])) = .ok verdict r' ∧
      PassesIn ⟨"linux", .ofString "out", .ofDirectory (.ofString "tests")⟩
        (.ofString "tests/a.html") [97] r'.files ∧
      PassesIn ⟨"linux", .ofString "out", .ofDirectory (.ofString "tests")⟩
        (.ofString "tests/a.html") [97] (CommandLine.run promoteWords
          (FileTree.empty.setFile [] (Utf8.encode "a.txt") [97] false) .empty (.scripted [] [])
          ⟨1970, 1, 1, 0, 0, 0, 0⟩).files := by
  obtain ⟨path, r, hsave⟩ := exists_of_endedWell (x := Writer.saveBaseline
    ⟨"linux", .ofString "out", .ofDirectory (.ofString "tests")⟩ (.ofString "tests/a.html") [97]
    ".txt") (r := .begin .empty .empty (.scripted [] [])) (by decide +kernel)
  obtain ⟨verdict, r', hpromote⟩ := exists_of_endedWell (x := compare
    ⟨"linux", .ofString "out", .ofDirectory (.ofString "tests")⟩ (.ofString "tests/a.html") [97]
    ⟨true, none, none, false, false⟩) (r := .begin .empty .empty (.scripted [] []))
    (by decide +kernel)
  obtain ⟨hsaved, hpassed, hcommand⟩ := resolution_of_promotion
    ⟨"linux", .ofString "out", .ofDirectory (.ofString "tests")⟩ (.ofString "tests/a.html") [97]
  exact ⟨path, r, verdict, r', hsave, hsaved _ _ _ _ hsave, hpromote, hpassed _ _ _ _ rfl hpromote,
    hcommand promoteWords promoteInvocation _ _ _ _
      (.ofDirectories "linux" (.ofString "tests") (.ofString "out")) (.ofString "a.html")
      (.ofString "a.txt") rfl rfl rfl rfl rfl rfl (by decide +kernel)⟩

end TextComparison

end Baseline
