import Baseline.Artifact
import Baseline.Comparison.Request
import Baseline.Failure

/-!
# Text comparison

An output passes when it equals its baseline byte for byte.  A baseline that is
not there counts as empty.
-/

namespace Baseline.TextComparison

/-- The extension of texts and their baselines. -/
def extension : String := ".txt"

/-- The baseline of a test, empty when there is none. -/
def expectedText (w : Writer) (test : Path) (showSources : Bool) : Action Bytes := do
  let path := w.expectedBaseline (← get).files test extension
  if showSources then Run.report (.expectedText test path)
  Run.readIfThere path

/-- The failure of an output that differs from its baseline. -/
def failure (expected : Bytes) (wordDiff : Bool) : Failure :=
  if expected.isEmpty then .missingText else .textMismatch wordDiff

/-- Judge an output. -/
def compare (w : Writer) (test : Path) (output : Bytes) (request : Request) : Action Verdict := do
  if request.newBaseline then
    let _ ← w.saveBaseline test output extension
    return []
  let expected ← expectedText w test request.showSources
  if expected = output then return []
  let _ ← w.writeResults test "" extension (some output) (some expected)
    (.standard request.wordDiff)
  return [failure expected request.wordDiff]

end Baseline.TextComparison
