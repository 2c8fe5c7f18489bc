/-!
# Failures and verdicts

A verdict is the list of reasons why a test did not match its baseline; the
empty list is a pass.
-/

namespace Baseline

/-- One reason why a test did not match its baseline. -/
inductive Failure
  /-- The text differs; the flag says whether a word diff was asked for. -/
  | textMismatch (wordDiff : Bool)
  /-- There is no text baseline. -/
  | missingText
  /-- The image's checksum differs. -/
  | checksumMismatch (expected actual : String)
  /-- There is no checksum baseline. -/
  | missingChecksum
  /-- There is no image baseline. -/
  | missingImage
  /-- The test gave neither a checksum nor an image. -/
  | missingActualChecksum
deriving DecidableEq

namespace Failure

/-- The report of a failure. -/
def message : Failure → String
  | .textMismatch true => "text diff mismatch (word diff written)"
  | .textMismatch false => "text diff mismatch"
  | .missingText => "no expected text result"
  | .checksumMismatch expected actual =>
    "image checksum mismatch: expected " ++ expected ++ ", got " ++ actual
  | .missingChecksum => "no expected image checksum"
  | .missingImage => "no expected image result"
  | .missingActualChecksum => "test produced no image checksum"

/-- Whether a baseline is absent rather than different. -/
def isMissingBaseline : Failure → Bool
  | .missingText | .missingChecksum | .missingImage => true
  | _ => false

end Failure

/-- The failures of one test, in order. -/
abbrev Verdict := List Failure

namespace Verdict

/-- Whether the test passed. -/
def passes (v : Verdict) : Bool := v.isEmpty

end Verdict

end Baseline
