import Baseline.Failure
import Baseline.Path
import Baseline.Timestamp

/-!
# Records

The outcome of one comparison as a log keeps it.
-/

namespace Baseline

/-- The outcome of one comparison. -/
structure Record where
  /-- The place in the log. -/
  seq : Nat
  timestamp : Timestamp
  /-- Milliseconds since the log was made. -/
  elapsed : Nat
  test : Path
  /-- The name of the comparison. -/
  engine : String
  failures : Verdict
deriving DecidableEq

namespace Record

/-- Whether the test passed. -/
def passed (r : Record) : Bool := r.failures.passes

end Record

end Baseline
