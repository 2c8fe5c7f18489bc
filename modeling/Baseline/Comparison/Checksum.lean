import Baseline.Artifact
import Baseline.Comparison.Request
import Baseline.Failure
import Baseline.Sha256
import Baseline.Text.Blank

/-!
# Checksum comparison

An image passes when its checksum equals the one in its baseline, blanks around
it aside, and an image baseline is there too.  Images themselves are not looked
at: when checksums differ, both images are copied beside the checksums.
-/

namespace Baseline.ChecksumComparison

/-- The extension of checksums and their baselines. -/
def extension : String := ".checksum"

/-- The extension of images and their baselines. -/
def imageExtension : String := ".png"

/-- A checksum that the driver gives, unless it is blank. -/
def givenChecksum? (request : Request) : Option String :=
  (request.checksum.map Text.trim).filter (· != "")

/-- The checksum of a test's image: the driver's, or else that of the image file. -/
def actualChecksum (request : Request) : Action (Option String) :=
  match givenChecksum? request, request.image with
  | some checksum, _ => return some checksum
  | none, some image => do return some (Sha256.hexDigest (← Run.read image))
  | none, none => return none

/-- Make a checksum and an image the baselines of a test. -/
def saveBaselines (w : Writer) (test : Path) (checksum : String) (request : Request) :
    Action Unit := do
  let _ ← w.saveBaseline test (Utf8.encode checksum) extension
  match request.image with
  | some image =>
    let data ← Run.read image
    let _ ← w.saveBaseline test data imageExtension
  | none => return ()

/-- Copy the test's image and its baseline, as far as they are there, to the artifacts. -/
def copyImages (w : Writer) (test : Path) (image : Option Path) (baseline : Path) :
    Action Unit := do
  let baselineIsThere := (← get).files.isFile baseline
  match image with
  | some source => Run.copy source (w.actualPath test "" imageExtension)
  | none => pure ()
  if baselineIsThere then
    Run.copy baseline (w.expectedPath test "" imageExtension)

/-- The checksum in a baseline. -/
def recordedChecksum (baseline : Bytes) : String := Text.trim (Utf8.decodeLossy baseline)

/-- What is wrong with a checksum, given the one in its baseline and whether there is an image
baseline. -/
def failure? (imageIsThere : Bool) (expected actual : String) : Option Failure :=
  if !imageIsThere then some .missingImage
  else if expected = "" then some .missingChecksum
  else if expected ≠ actual then some (.checksumMismatch expected actual)
  else none

/-- Judge an image. -/
def compare (w : Writer) (test : Path) (request : Request) : Action Verdict := do
  match ← actualChecksum request with
  | none => return [.missingActualChecksum]
  | some actual =>
    if request.newBaseline then
      saveBaselines w test actual request
      return []
    let files := (← get).files
    let checksumPath := w.expectedBaseline files test extension
    let imagePath := w.expectedBaseline files test imageExtension
    if request.showSources then Run.report (.expectedImage test checksumPath imagePath)
    let expected := recordedChecksum (← Run.readIfThere checksumPath)
    match failure? (files.isFile imagePath) expected actual with
    | none => return []
    | some failure =>
      let _ ← w.writeResults test "" extension (some (Utf8.encode actual))
        (some (Utf8.encode expected)) .none
      copyImages w test request.image imagePath
      return [failure]

end Baseline.ChecksumComparison
