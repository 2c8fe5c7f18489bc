import Baseline.Checkout
import Baseline.Diff.Unified
import Baseline.Run
import Baseline.WordDiff.Page

/-!
# Artifacts

A writer keeps the results of one platform under one output directory, and
promotes outputs to baselines.  A test `fast/dom/foo.html` with the tag `T` and
the extension `.txt` has these artifacts there:

* `fast/dom/fooT-actual.txt`, its output;
* `fast/dom/fooT-expected.txt`, the baseline it was compared with;
* `fast/dom/fooT-diff.txt`, a line diff of the two;
* `fast/dom/fooT-wdiff.html`, a word diff of the two.

An output or a baseline with nothing in it has no artifact, and without both
there is no diff.
-/

namespace Baseline

/-- Keeps the results of one platform. -/
structure Writer where
  platform : String
  outputDir : Path
  checkout : Checkout

/-- Which diffs are wanted. -/
structure Diffs where
  lines : Bool
  words : Bool
deriving DecidableEq

namespace Diffs

/-- No diff. -/
def none : Diffs := ⟨false, false⟩

/-- A line diff, and a word diff when asked for. -/
def standard (words : Bool) : Diffs := ⟨true, words⟩

end Diffs

/-- The artifacts that were written. -/
structure Artifacts where
  actual : Option Path
  expected : Option Path
  diff : Option Path
  wordDiff : Option Path
deriving DecidableEq

namespace Artifacts

/-- The paths of the artifacts. -/
def paths (a : Artifacts) : List Path :=
  [a.actual, a.expected, a.diff, a.wordDiff].filterMap id

end Artifacts

namespace Writer

/-! ### Names -/

/-- The mark of a test's output, before its extension. -/
def actualMark : String := "-actual"

/-- The mark of the baseline that a test was compared with, before its extension. -/
def expectedMark : String := "-expected"

/-- The mark of a line diff, before its extension. -/
def diffMark : String := "-diff"

/-- The mark and the extension of a word diff. -/
def wordDiffMark : String := "-wdiff.html"

/-- The place of a test's artifact: the test's place under the output directory, with `modifier`
for its extension.  What resolves to the top of the tests has no name, so `modifier` alone is
the name. -/
def artifactPath (w : Writer) (test : Path) (modifier : String) : Path :=
  let relative := w.checkout.relative test
  if relative.bytes = [] then w.outputDir.join (.ofString modifier)
  else (w.outputDir.join relative).withoutExtension.append (Utf8.encode modifier)

/-- The directory of a test's artifacts. -/
def artifactDir (w : Writer) (test : Path) : Path :=
  match (w.checkout.relative test).parent? with
  | some parent => w.outputDir.join parent
  | none => w.outputDir

/-- The place of a test's output. -/
def actualPath (w : Writer) (test : Path) (tag extension : String) : Path :=
  w.artifactPath test (tag ++ actualMark ++ extension)

/-- The place of the baseline that a test was compared with. -/
def expectedPath (w : Writer) (test : Path) (tag extension : String) : Path :=
  w.artifactPath test (tag ++ expectedMark ++ extension)

/-- The place of a test's line diff. -/
def diffPath (w : Writer) (test : Path) (tag extension : String) : Path :=
  w.artifactPath test (tag ++ diffMark ++ extension)

/-- The place of a test's word diff. -/
def wordDiffPath (w : Writer) (test : Path) (tag : String) : Path :=
  w.artifactPath test (tag ++ wordDiffMark)

/-- The baseline that a test is compared with. -/
def expectedBaseline (w : Writer) (files : FileTree) (test : Path) (suffix : String) : Path :=
  w.checkout.expectedBaseline files w.platform test suffix

/-! ### Baselines -/

/-- Make an output the baseline of a test for this platform; an older one is replaced. -/
def saveBaseline (w : Writer) (test : Path) (data : Bytes) (suffix : String) : Action Path := do
  Run.ensureDirectory (w.checkout.platformDirectory w.platform test)
  let path := w.checkout.platformBaseline w.platform test suffix
  Run.report (.writingBaseline path)
  Run.write path data
  return path

/-! ### Results -/

/-- Make the directory of a test's artifacts. -/
def ensureOutputDirectory (w : Writer) (test : Path) : Action Unit :=
  Run.ensureDirectory (w.artifactDir test)

/-- The word diff of two files.  A tool that is missing is not called again in the run; one that
could not be started this time is called for the next artifact. -/
def wordDiffPage (w : Writer) (expected actual : Path) : Action WordDiff.Page := do
  let r ← get
  if !r.availability.isAvailable then return .notInstalled
  let tool := w.checkout.tool r.environment
  match ← Run.call ⟨tool, WordDiff.arguments expected actual⟩ with
  | .ok output => return .ofOutput output
  | .error fault =>
    match WordDiff.classify fault with
    | .unavailable =>
      if ← Run.giveUpWordDiffs then Run.report (.toolUnavailable tool fault)
      return .notInstalled
    | .transient =>
      Run.report (.spawnFailed tool fault)
      return .concurrentFailure
    | .fatal => throw (.tool tool fault)

/-- Write what there is to write, if anything; the path when there is. -/
def keep (path : Path) : Option Bytes → Action (Option Path)
  | some data => do
    Run.write path data
    return some path
  | none => return none

/-- A content that is worth an artifact. -/
def present (content : Option Bytes) : Option Bytes := content.filter fun data => !data.isEmpty

/-- The line diff of two artifacts. -/
def lineDiff (w : Writer) (test : Path) (tag extension : String) (expected actual : Bytes) :
    Bytes :=
  Diff.unified expected actual (w.expectedPath test tag extension).text
    (w.actualPath test tag extension).text

/-- Write the artifacts of a test: its output, the baseline it was compared with, and the diffs
that are wanted. -/
def writeResults (w : Writer) (test : Path) (tag extension : String)
    (actual expected : Option Bytes) (diffs : Diffs) : Action Artifacts := do
  w.ensureOutputDirectory test
  let actualPath := w.actualPath test tag extension
  let expectedPath := w.expectedPath test tag extension
  let writtenActual ← keep actualPath (present actual)
  let writtenExpected ← keep expectedPath (present expected)
  match present actual, present expected with
  | some a, some e =>
    let diff := if diffs.lines then some (w.lineDiff test tag extension e a) else none
    let writtenDiff ← keep (w.diffPath test tag extension) diff
    if diffs.words then
      let page ← w.wordDiffPage expectedPath actualPath
      let writtenWords ← keep (w.wordDiffPath test tag) (some (Utf8.encode page.html))
      return ⟨writtenActual, writtenExpected, writtenDiff, writtenWords⟩
    else return ⟨writtenActual, writtenExpected, writtenDiff, none⟩
  | _, _ => return ⟨writtenActual, writtenExpected, none, none⟩

end Writer

end Baseline
