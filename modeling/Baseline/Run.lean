import Baseline.Environment
import Baseline.Event
import Baseline.FileTree
import Baseline.Script
import Baseline.WordDiff.Tool

/-!
# Runs

A run is what comparisons share: the files, the environment, the tools that can
be called and whether the word-diff tool is still worth calling.  It also keeps
what it has reported and which tools it has called, in order.

An `Action` works on a run.  When it fails, the run stays as it was at that
moment: files that were written before stay written.
-/

namespace Baseline

/-- The tools that a run can call. -/
inductive Tools
  /-- Answers for the calls to come, and one for all calls after those. -/
  | scripted (answers : List (Except Fault Bytes)) (fallback : Bytes)
  /-- The programs among the files; a bare name is looked for in these directories. -/
  | programs (directories : List Path)

/-- A tool that was called, and its arguments. -/
structure Call where
  program : Path
  arguments : List String
deriving DecidableEq

/-- What comparisons share. -/
structure Run where
  files : FileTree
  environment : Environment
  tools : Tools
  availability : WordDiff.Availability
  /-- What was reported, the oldest first. -/
  events : List Event
  /-- Which tools were called, the oldest first. -/
  calls : List Call

/-- Why an action fails. -/
inductive RunError
  /-- A file operation failed at a path. -/
  | file (path : Path) (fault : Fault)
  /-- The word-diff tool failed in a way that concerns the whole run. -/
  | tool (program : Path) (fault : Fault)
deriving DecidableEq

namespace RunError

/-- The fault behind an error. -/
def fault : RunError → Fault
  | .file _ fault => fault
  | .tool _ fault => fault

/-- The wording of an error. -/
def message : RunError → String
  | .file path fault => "I/O error at " ++ path.text ++ ": " ++ fault.message
  | .tool program fault => "Failed to run word-diff tool " ++ program.text ++ ": " ++ fault.message

end RunError

namespace Tools

/-- Call a tool: its output or why it could not be run, the tools for the calls after this, and the
files, which only programs change. -/
def call (tools : Tools) (files : FileTree) (environment : Environment) (c : Call) :
    Except Fault Bytes × Tools × FileTree :=
  match tools with
  | .scripted (answer :: later) fallback => (answer, .scripted later fallback, files)
  | .scripted [] fallback => (.ok fallback, .scripted [] fallback, files)
  | .programs directories =>
    let (answer, files) :=
      Script.start files directories environment.settings c.program c.arguments
    (answer, .programs directories, files)

end Tools

/-- Work on a run that may fail. -/
abbrev Action (α : Type) := EStateM RunError Run α

namespace Run

/-- A run that has done nothing yet. -/
def begin (files : FileTree) (environment : Environment) (tools : Tools) : Run :=
  ⟨files, environment, tools, .initial, [], []⟩

/-- Report an event. -/
def report (e : Event) : Action Unit := modify fun r => { r with events := r.events ++ [e] }

/-- Call a tool. -/
def call (c : Call) : Action (Except Fault Bytes) := fun r =>
  let (answer, tools, files) := r.tools.call r.files r.environment c
  .ok answer { r with files := files, tools := tools, calls := r.calls ++ [c] }

/-- Never call the word-diff tool again; tells whether it still would have been. -/
def giveUpWordDiffs : Action Bool := fun r =>
  let (changed, availability) := r.availability.markUnavailable
  .ok changed { r with availability := availability }

/-- The content of a file. -/
def read (p : Path) : Action Bytes := fun r =>
  match r.files.readFile p with
  | .ok data => .ok data r
  | .error fault => .error (.file p fault) r

/-- The content of a file, empty when there is none. -/
def readIfThere (p : Path) : Action Bytes := fun r =>
  match r.files.readFile p with
  | .ok data => .ok data r
  | .error fault => if fault.kind = .notFound then .ok [] r else .error (.file p fault) r

/-- Replace the content of a file, which is made when it is missing. -/
def write (p : Path) (data : Bytes) : Action Unit := do
  report (.writingArtifact p data.length)
  fun r =>
    match r.files.writeFile p data with
    | .ok files => .ok () { r with files := files }
    | .error fault => .error (.file p fault) r

/-- Copy a file; a fault is reported at the place of the copy. -/
def copy (source destination : Path) : Action Unit := fun r =>
  match r.files.copyFile source destination with
  | .ok files => .ok () { r with files := files }
  | .error fault => .error (.file destination fault) r

/-- Make a directory and the missing ones above it. -/
def ensureDirectory (p : Path) : Action Unit := fun r =>
  match r.files.ensureDirectory p with
  | (.ok (), files) => .ok () { r with files := files }
  | (.error fault, files) => .error (.file p fault) { r with files := files }

end Run

end Baseline
