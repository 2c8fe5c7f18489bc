import Baseline.Path

/-!
# Requests

What a comparison is asked to do besides comparing.
-/

namespace Baseline

/-- The wishes for one comparison. -/
structure Request where
  /-- Make the output the new baseline instead of comparing. -/
  newBaseline : Bool
  /-- The image that the test made. -/
  image : Option Path
  /-- The checksum of that image, when the driver gives one. -/
  checksum : Option String
  /-- Write a word diff too. -/
  wordDiff : Bool
  /-- Report which baselines are used. -/
  showSources : Bool
deriving DecidableEq

namespace Request

/-- Compare and nothing else. -/
def plain : Request := ⟨false, none, none, false, false⟩

end Request

end Baseline
