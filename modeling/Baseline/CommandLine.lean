import Baseline.CommandLine.Invocation
import Baseline.Event.Filter
import Baseline.Log

/-!
# The command line

Compare a test's output with its baseline, or make an output the baseline.  The
outcome is an exit code, what is written to the two streams, and the files as they
are left.

The code is 0 for a pass, 1 for failures and 2 when no verdict was reached.  A
verdict is the only thing on the output stream; events, warnings and errors go to
the error stream.
-/

namespace Baseline.CommandLine

/-- What comes of a command. -/
structure Outcome where
  code : Nat
  output : Bytes
  errors : String
  files : FileTree

/-- Why a command reaches no verdict. -/
inductive Trouble
  | config (e : ConfigError)
  | actualUnreadable (path : Path) (fault : Fault)
  /-- A text comparison has no output to compare. -/
  | noActual
  | run (e : RunError)
  | logUnopened (path : Path) (fault : Fault)
  | logUnwritten (path : Path) (fault : Fault)

namespace Trouble

/-- The wording of what is wrong: the trouble and what is behind it. -/
def message : Trouble → String
  | .config e =>
    match e.cause with
    | some cause => e.message ++ ": " ++ cause
    | none => e.message
  | .actualUnreadable path fault =>
    "Failed to read actual output " ++ path.text ++ ": " ++ fault.message
  | .noActual => "--actual is required for the text engine"
  | .run e => e.message ++ ": " ++ e.fault.message
  | .logUnopened path fault => "Failed to open results log " ++ path.text ++ ": " ++ fault.message
  | .logUnwritten path fault => "Failed to write results log " ++ path.text ++ ": " ++ fault.message

end Trouble

/-- Work of a command. -/
abbrev Work (α : Type) := EStateM Trouble Run α

namespace Work

/-- An action as part of a command. -/
def ofAction {α : Type} (a : Action α) : Work α := fun r =>
  match a r with
  | .ok v r => .ok v r
  | .error e r => .error (.run e) r

/-- The output that a test has left in a file. -/
def readActual (p : Path) : Work Bytes := fun r =>
  match r.files.readFile p with
  | .ok data => .ok data r
  | .error fault => .error (.actualUnreadable p fault) r

/-- Record a verdict in a file. -/
def record (log : Path) (now : Timestamp) (test : Path) (engine : Engine) (v : Verdict) :
    Work Unit :=
  fun r =>
    match Log.openFile r.files log with
    | .error fault => .error (.logUnopened log fault) r
    | .ok (l, files) =>
      match (l.withDevice r.environment.logDevice).record files now 0 test engine.name v with
      | (.ok _, l, files) => .ok () { r with files := l.close files }
      | (.error fault, l, files) =>
        .error (.logUnwritten log fault) { r with files := l.close files }

end Work

/-- A configuration's writer. -/
def writerOf (c : Config) : Writer := ⟨c.platform, c.outputDir, c.checkout⟩

/-- A test that is named relative to the tests is taken from there. -/
def testFile (c : Config) (test : Path) : Path :=
  if test.isAbsolute then test else c.testsDir.join test

/-- The output that a comparison looks at. -/
def actualOutput (actual : Option Path) (engine : Engine) : Work Bytes :=
  match actual, engine with
  | some p, _ => Work.readActual p
  | none, .text => throw .noActual
  | none, .checksum => return []

/-- Compare a test's output and record the verdict. -/
def compare (c : Config) (log : Option Path) (now : Timestamp) (test : Path)
    (actual : Option Path) (engine : Engine) (request : Request) : Work Verdict := do
  let output ← actualOutput actual engine
  let v ← Work.ofAction (engine.compare (writerOf c) (testFile c test) output request)
  match log with
  | some log => Work.record log now test engine v
  | none => pure ()
  return v

/-- Make a file the baseline of a test. -/
def rebaseline (c : Config) (test actual : Path) (suffix : String) : Work Path := do
  let data ← Work.readActual actual
  Work.ofAction ((writerOf c).saveBaseline (testFile c test) data suffix)

/-! ### Reports -/

/-- The lines that report a verdict. -/
def verdictLines (test : Path) (v : Verdict) : List String :=
  if v.passes then ["PASS " ++ test.text]
  else v.map fun f => "FAIL " ++ test.text ++ ": " ++ f.message

/-- The warning about a baseline that is missing. -/
def warningLines (test : Path) (v : Verdict) : List String :=
  if v.any Failure.isMissingBaseline then
    ["Warning: " ++ test.text ++ " has no baseline; rerun with --new-baseline to create one"]
  else []

/-- Lines as text. -/
def joinLines (ls : List String) : String := String.join (ls.map (· ++ "\n"))

/-- What a task leaves behind: its code, its lines on the two streams, and the run. -/
structure Report where
  code : Nat
  output : List String
  errors : List String
  run : Run

/-- Carry out a task. -/
def perform (i : Invocation) (c : Config) (now : Timestamp) (r : Run) : Report :=
  let failed (t : Trouble) (r : Run) : Report := ⟨2, [], ["Error: " ++ t.message], r⟩
  match i.task with
  | .compare test actual engine request =>
    match compare c i.settings.log now test actual engine request r with
    | .error t r => failed t r
    | .ok v r => ⟨if v.passes then 0 else 1, verdictLines test v, warningLines test v, r⟩
  | .rebaseline test actual suffix =>
    match rebaseline c test actual suffix r with
    | .error t r => failed t r
    | .ok path r => ⟨0, [path.text], [], r⟩

/-! ### What is shown -/

/-- The threshold that a command line asks for. -/
def Invocation.threshold (i : Invocation) : Event.Threshold :=
  if i.verbose then some .debug
  else
    match i.task with
    | .compare _ _ _ request => if request.showSources then some .info else some .warn
    | .rebaseline .. => some .warn

/-- The filter of events: that of the environment, or when it has none that can be read, that of
the command line. -/
def Invocation.filter (i : Invocation) (env : Environment) : Event.Filter :=
  (env.logLevel.bind Event.Filter.parse?).getD (.ofThreshold i.threshold)

/-- The lines of the events that are shown. -/
def eventLines (f : Event.Filter) (es : List Event) : List String :=
  (es.filter f.shows).map Event.line

/-- Carry out what a command line asks for. -/
def execute (i : Invocation) (files : FileTree) (env : Environment) (tools : Tools)
    (now : Timestamp) : Outcome :=
  let filter := i.filter env
  match i.settings.resolve files env with
  | .error e => ⟨2, [], joinLines ["Error: " ++ (Trouble.config e).message], files⟩
  | .ok c =>
    let begun := Run.begin files env tools
    let configured : Event := .configured c.platform c.outputDir c.target
    let report := perform i c now { begun with events := [configured] }
    ⟨report.code, Utf8.encode (joinLines report.output),
      joinLines (eventLines filter report.run.events ++ report.errors), report.run.files⟩

/-- What comes of a command line that is not carried out. -/
def refused (stop : Stop) (files : FileTree) : Outcome :=
  match stop with
  | .help .. | .version => ⟨0, Utf8.encode (stop.message ++ "\n"), "", files⟩
  | _ => ⟨2, [], stop.message ++ "\n", files⟩

/-- Run a command line. -/
def run (args : List Bytes) (files : FileTree) (env : Environment) (tools : Tools)
    (now : Timestamp) : Outcome :=
  match Invocation.parse args with
  | .error stop => refused stop files
  | .ok i => execute i files env tools now

end Baseline.CommandLine
