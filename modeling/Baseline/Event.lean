import Baseline.BuildTarget
import Baseline.Fault
import Baseline.Path

/-!
# Events

What a run reports while it works.  An event says what is about to be done, so a
write that fails has its event too.
-/

namespace Baseline

/-- How much an event matters; a run that shows one level shows those above it. -/
inductive Level
  | error
  | warn
  | info
  | debug
deriving DecidableEq

namespace Level

/-- The place of a level, the most important first. -/
def rank : Level → Nat
  | .error => 0
  | .warn => 1
  | .info => 2
  | .debug => 3

/-- The word in front of an event. -/
def name : Level → String
  | .error => "ERROR"
  | .warn => "WARN"
  | .info => "INFO"
  | .debug => "DEBUG"

end Level

/-- What a run reports. -/
inductive Event
  /-- The settings are known. -/
  | configured (platform : String) (output : Path) (target : BuildTarget)
  /-- A baseline is about to be written. -/
  | writingBaseline (path : Path)
  /-- A file is about to be written. -/
  | writingArtifact (path : Path) (size : Nat)
  /-- The word-diff tool will not be called again in this run. -/
  | toolUnavailable (tool : Path) (fault : Fault)
  /-- The word-diff tool could not be started for this artifact. -/
  | spawnFailed (tool : Path) (fault : Fault)
  /-- The baseline that a text is compared with. -/
  | expectedText (test baseline : Path)
  /-- The baselines that an image is compared with. -/
  | expectedImage (test checksum image : Path)
deriving DecidableEq

namespace Event

/-- The value of a field. -/
inductive Field
  | text (s : String)
  | number (n : Nat)
deriving DecidableEq

/-- The text of a field. -/
def Field.shown : Field → String
  | .text s => s
  | .number n => toString n

/-- How much an event matters. -/
def level : Event → Level
  | .configured .. | .writingBaseline _ | .writingArtifact .. => .debug
  | .toolUnavailable .. | .spawnFailed .. => .warn
  | .expectedText .. | .expectedImage .. => .info

/-- The part of the program that an event comes from. -/
def origin : Event → String
  | .configured .. => "layout_results::run"
  | .writingBaseline _ | .writingArtifact .. | .toolUnavailable .. | .spawnFailed .. =>
    "layout_results::engine"
  | .expectedText .. => "layout_results::text"
  | .expectedImage .. => "layout_results::checksum"

/-- The wording of an event. -/
def message : Event → String
  | .configured .. => "run configured"
  | .writingBaseline _ => "writing new baseline"
  | .writingArtifact .. => "writing artifact"
  | .toolUnavailable .. => "word-diff tool unavailable, skipping word diffs for this run"
  | .spawnFailed .. => "word-diff spawn failed"
  | .expectedText .. => "expected text"
  | .expectedImage .. => "expected image"

/-- What an event is about, by name. -/
def fields : Event → List (String × Field)
  | .configured platform output target =>
    [("platform", .text platform), ("output", .text output.text), ("target", .text target.name)]
  | .writingBaseline path => [("path", .text path.text)]
  | .writingArtifact path size => [("path", .text path.text), ("bytes", .number size)]
  | .toolUnavailable tool fault | .spawnFailed tool fault =>
    [("tool", .text tool.text), ("error", .text fault.message)]
  | .expectedText test baseline => [("test", .text test.text), ("baseline", .text baseline.text)]
  | .expectedImage test checksum image =>
    [("test", .text test.text), ("checksum", .text checksum.text), ("image", .text image.text)]

/-- An event as a line of text. -/
def line (e : Event) : String :=
  e.level.name ++ " " ++ e.message ++
    String.join (e.fields.map fun (name, value) => " " ++ name ++ "=" ++ value.shown)

end Event

end Baseline
