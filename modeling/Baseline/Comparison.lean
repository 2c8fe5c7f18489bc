import Baseline.Comparison.Checksum
import Baseline.Comparison.Text

/-!
# Comparisons

The kinds of comparison, by name.
-/

namespace Baseline

/-- A kind of comparison. -/
inductive Engine
  | text
  | checksum
deriving DecidableEq

namespace Engine

/-- The name of a kind of comparison. -/
def name : Engine → String
  | .text => "text"
  | .checksum => "checksum"

/-- The kind of comparison of that exact name. -/
def ofName? (s : String) : Option Engine :=
  if s = "text" then some .text else if s = "checksum" then some .checksum else none

/-- Judge the output of a test. -/
def compare (e : Engine) (w : Writer) (test : Path) (output : Bytes) (request : Request) :
    Action Verdict :=
  match e with
  | .text => TextComparison.compare w test output request
  | .checksum => ChecksumComparison.compare w test request

end Engine

end Baseline
