import Baseline.Proofs.CommandLine.Recording
import Baseline.Proofs.CommandLine.Settings
import Baseline.Proofs.Comparison.Elsewhere
import Baseline.Proofs.Script

/-!
# Comparing from the command line

A command line that compares does what the comparison itself does, with the configuration
that it resolves to (`Settings.Resolved`), and reports it: a verdict is told alike by the code,
the two streams and the log (`Tells`, `Records`), and without a verdict there is nothing on the
output stream and no line in the log (`Silent`).  When the log does not take the verdict
nothing is told either (`Unrecorded`).  All other files are left as the comparison leaves them
(`agrees_of_compare`).

The log is told about once the comparison has ended, so its file has to be none of those that the
comparison writes, and a tool that is called for a word diff has to leave it alone (`LogApart`).
-/

namespace Baseline.CommandLine

open Action FileTree

/-! ### What is compared -/

/-- The output that a comparison looks at; none when it cannot be read, or is needed and not
given. -/
def outputOf? (files : FileTree) (actual : Option Path) (engine : Engine) : Option Bytes :=
  match actual, engine with
  | some p, _ => (files.readFile p).toOption
  | none, .text => none
  | none, .checksum => some []

theorem actualOutput_of_some {actual : Option Path} {engine : Engine} {r : Run} {output : Bytes}
    (h : outputOf? r.files actual engine = some output) :
    actualOutput actual engine r = .ok output r := by
  unfold outputOf? at h
  cases actual with
  | some p =>
    cases hread : r.files.readFile p with
    | error fault => simp [hread, Except.toOption] at h
    | ok data =>
      obtain rfl : data = output := by simpa [hread, Except.toOption] using h
      simp [actualOutput, Work.readActual, hread]
  | none =>
    cases engine with
    | text => simp at h
    | checksum =>
      obtain rfl : [] = output := by simpa using h
      rfl

theorem actualOutput_of_none {actual : Option Path} {engine : Engine} {r : Run}
    (h : outputOf? r.files actual engine = none) :
    ∃ t, actualOutput actual engine r = .error t r := by
  unfold outputOf? at h
  cases actual with
  | some p =>
    cases hread : r.files.readFile p with
    | error fault =>
      exact ⟨.actualUnreadable p fault, by simp [actualOutput, Work.readActual, hread]⟩
    | ok data => simp [hread, Except.toOption] at h
  | none =>
    cases engine with
    | text => exact ⟨_, rfl⟩
    | checksum => simp at h

/-! ### What a command line comes to -/

/-- The file of a log, if there is one, holds what it held. -/
def Untouched (log : Option Path) (before after : FileTree) : Prop :=
  ∀ p ∈ log, after.content? (before.place p) = before.content? (before.place p)

/-- All files but that of the log are as they were left. -/
structure Elsewhere (log : Option Path) (before left after : FileTree) : Prop where
  start : after.start = left.start
  node : ∀ l, (∀ p ∈ log, l ≠ before.place p) → after.node? l = left.node? l

theorem elsewhere_of_differsAt {p : Path} {before left after : FileTree}
    (h : DiffersAt (before.place p) left after) : Elsewhere (some p) before left after :=
  ⟨h.start, fun l hl => h.node l (hl p rfl)⟩

theorem Elsewhere.congr {log : Option Path} {s before left after : FileTree}
    (h : Elsewhere log s left after) (hs : ∀ p ∈ log, s.place p = before.place p) :
    Elsewhere log before left after :=
  ⟨h.start, fun l hl => h.node l fun p hp => hs p hp ▸ hl p hp⟩

/-- No verdict: nothing is on the output stream or in the log, and the files are as they were
left. -/
structure Silent (log : Option Path) (before left : FileTree) (o : Outcome) : Prop where
  code : o.code = 2
  output : o.output = []
  files : o.files = left
  untouched : Untouched log before o.files

/-- A verdict that the log does not take: nothing is on the output stream, and the log has no new
line. -/
structure Unrecorded (log : Option Path) (before left : FileTree) (o : Outcome) : Prop where
  code : o.code = 2
  output : o.output = []
  unwritten : ∀ p ∈ log, Unwritten (before.place p) before o.files
  elsewhere : Elsewhere log before left o.files

/-- A verdict, as the code and the streams tell it.  Behind the events of the run, the error stream
warns of a baseline that is missing. -/
structure Tells (test : Path) (v : Verdict) (events : List String) (o : Outcome) : Prop where
  code : o.code = if v = [] then 0 else 1
  output : o.output = Utf8.encode (
    if v = [] then "PASS " ++ test.text ++ "\n"
    else String.join (v.map fun f => "FAIL " ++ test.text ++ ": " ++ f.message ++ "\n"))
  errors : o.errors = joinLines (events ++
    if v.any Failure.isMissingBaseline then
      ["Warning: " ++ test.text ++ " has no baseline; rerun with --new-baseline to create one"]
    else [])

/-- A verdict, as the log tells it. -/
structure Records (log : Option Path) (now : Timestamp) (test : Path) (engine : Engine)
    (v : Verdict) (before left : FileTree) (o : Outcome) : Prop where
  written : ∀ p ∈ log, Written (before.place p) now test engine v before o.files
  elsewhere : Elsewhere log before left o.files

/-- The run that a command line compares in: nothing was done but to report the configuration. -/
def begun (c : Config) (files : FileTree) (env : Environment) (tools : Tools) : Run :=
  { Run.begin files env tools with events := [.configured c.platform c.outputDir c.target] }

/-- The log of a command line is none of the files that the comparison writes, and the tool that is
called when a word diff is wanted leaves it alone. -/
def LogApart (i : Invocation) (files : FileTree) (env : Environment) (tools : Tools) (test : Path)
    (engine : Engine) (request : Request) : Prop :=
  ∀ log ∈ i.settings.log, ∀ c, i.settings.Resolved files env c →
    (∀ p ∈ engine.writtenPaths (writerOf c) (testFile c test) request,
      files.place p ≠ files.place log) ∧
    engine.ToolSparesAt (writerOf c) (testFile c test) request (files.place log)
      (begun c files env tools)

/-- What a command line comes to with a configuration, by what the comparison comes to. -/
def AgreesWith (c : Config) (i : Invocation) (files : FileTree) (env : Environment) (tools : Tools)
    (now : Timestamp) (test : Path) (actual : Option Path) (engine : Engine) (request : Request)
    (o : Outcome) : Prop :=
  match outputOf? files actual engine with
  | none => Silent i.settings.log files files o
  | some output =>
    match engine.compare (writerOf c) (testFile c test) output request
      (begun c files env tools) with
    | .error _ r => Silent i.settings.log files r.files o
    | .ok v r =>
      ((∀ p ∈ i.settings.log, Takes r.files env.logDevice (recordOf now test engine v) p) →
        Tells test v (eventLines (i.filter env) r.events) o ∧
          Records i.settings.log now test engine v files r.files o) ∧
      (¬ (∀ p ∈ i.settings.log, Takes r.files env.logDevice (recordOf now test engine v) p) →
        Unrecorded i.settings.log files r.files o)

/-- What a command line that compares comes to. -/
structure Agrees (i : Invocation) (files : FileTree) (env : Environment) (tools : Tools)
    (now : Timestamp) (test : Path) (actual : Option Path) (engine : Engine) (request : Request)
    (o : Outcome) : Prop where
  /-- There is no configuration for it. -/
  unresolved : (∀ c, ¬ i.settings.Resolved files env c) → Silent i.settings.log files files o
  /-- It compares with the configuration that its options and the file make. -/
  resolved : ∀ c, i.settings.Resolved files env c →
    AgreesWith c i files env tools now test actual engine request o

/-! ### Carrying out a comparison -/

section

variable {c : Config} {log : Option Path} {now : Timestamp} {test : Path} {actual : Option Path}
  {engine : Engine} {request : Request} {r : Run}

theorem compare_of_no_output (h : outputOf? r.files actual engine = none) :
    ∃ t, compare c log now test actual engine request r = .error t r := by
  obtain ⟨t, ht⟩ := actualOutput_of_none h
  refine ⟨t, ?_⟩
  show EStateM.bind _ _ r = _
  simp only [EStateM.bind, ht]

/-- What comes after a verdict: it is recorded when a log is given. -/
def logged (log : Option Path) (now : Timestamp) (test : Path) (engine : Engine) (v : Verdict) :
    Work Verdict := do
  match log with
  | some p => Work.record p now test engine v
  | none => pure ()
  return v

/-- **What a comparison does once it has its output**: it compares, and it records the verdict. -/
theorem compare_of_output {output : Bytes} (h : outputOf? r.files actual engine = some output) :
    compare c log now test actual engine request r =
      match engine.compare (writerOf c) (testFile c test) output request r with
      | .error e r' => .error (.run e) r'
      | .ok v r' => logged log now test engine v r' := by
  show EStateM.bind _ _ r = _
  simp only [EStateM.bind, actualOutput_of_some h]
  show EStateM.bind _ _ r = _
  simp only [EStateM.bind, Work.ofAction]
  cases engine.compare (writerOf c) (testFile c test) output request r <;> rfl

theorem logged_some (p : Path) (v : Verdict) :
    logged (some p) now test engine v r =
      match Work.record p now test engine v r with
      | .error t r' => .error t r'
      | .ok () r' => .ok v r' := by
  show EStateM.bind _ _ r = _
  simp only [EStateM.bind]
  cases Work.record p now test engine v r <;> rfl

/-- **A verdict that the log takes** is one more line of it. -/
theorem logged_of_takes {now : LogSession.Moment} {v : Verdict}
    (h : ∀ p ∈ log, Takes r.files r.environment.logDevice (recordOf now.1 test engine v) p) :
    ∃ files, logged log now.1 test engine v r = .ok v { r with files := files } ∧
      (∀ p ∈ log, Written (r.files.place p) now.1 test engine v r.files files) ∧
      Elsewhere log r.files r.files files := by
  cases log with
  | none => exact ⟨r.files, rfl, by simp, rfl, fun _ _ => rfl⟩
  | some p =>
    obtain ⟨files, hrecord, hdiffers, hwritten⟩ := Work.record_of_takes (h p rfl)
    refine ⟨files, by rw [logged_some, hrecord], ?_, elsewhere_of_differsAt hdiffers⟩
    rintro _ ⟨⟩
    exact hwritten

/-- **A verdict that the log does not take** leaves no line. -/
theorem logged_of_not_takes {now : LogSession.Moment} {v : Verdict}
    (h : ¬ ∀ p ∈ log, Takes r.files r.environment.logDevice (recordOf now.1 test engine v) p) :
    ∃ t files, logged log now.1 test engine v r = .error t { r with files := files } ∧
      (∀ p ∈ log, Unwritten (r.files.place p) r.files files) ∧
      Elsewhere log r.files r.files files := by
  cases log with
  | none => simp at h
  | some p =>
    obtain ⟨t, files, hrecord, hdiffers, hunwritten⟩ := Work.record_of_not_takes (by simpa using h)
    refine ⟨t, files, by rw [logged_some, hrecord], ?_, elsewhere_of_differsAt hdiffers⟩
    rintro _ ⟨⟩
    exact hunwritten

theorem execute_of_unresolved {i : Invocation} {files : FileTree} {env : Environment}
    {tools : Tools} (h : ∀ c, ¬ i.settings.Resolved files env c) :
    Silent i.settings.log files files (execute i files env tools now) := by
  unfold execute
  cases hresolve : i.settings.resolve files env with
  | error e => exact ⟨rfl, rfl, rfl, fun _ _ => rfl⟩
  | ok c => exact absurd (Settings.resolve_eq_ok.mp hresolve) (h c)

/-- What a command line shows of the report of its task. -/
def Report.shown (report : Report) (filter : Event.Filter) : Outcome :=
  ⟨report.code, Utf8.encode (joinLines report.output),
    joinLines (eventLines filter report.run.events ++ report.errors), report.run.files⟩

theorem execute_of_resolved {i : Invocation} {files : FileTree} {env : Environment} {tools : Tools}
    (h : i.settings.Resolved files env c) :
    execute i files env tools now =
      (perform i c now (begun c files env tools)).shown (i.filter env) := by
  unfold execute
  rw [Settings.resolve_eq_ok.mpr h]
  rfl

theorem perform_of_error {i : Invocation} (htask : i.task = .compare test actual engine request)
    {t : Trouble} {r' : Run}
    (h : compare c i.settings.log now test actual engine request r = .error t r') :
    perform i c now r = ⟨2, [], ["Error: " ++ t.message], r'⟩ := by
  simp only [perform, htask, h]

theorem perform_of_ok {i : Invocation} (htask : i.task = .compare test actual engine request)
    {v : Verdict} {r' : Run}
    (h : compare c i.settings.log now test actual engine request r = .ok v r') :
    perform i c now r =
      ⟨if v.passes then 0 else 1, verdictLines test v, warningLines test v, r'⟩ := by
  simp only [perform, htask, h]

/-- **A report tells the verdict.** -/
theorem tells_of_shown (test : Path) (v : Verdict) (r : Run) (filter : Event.Filter) :
    Tells test v (eventLines filter r.events) (Report.shown
      ⟨if v.passes then 0 else 1, verdictLines test v, warningLines test v, r⟩ filter) := by
  cases v with
  | nil => exact ⟨rfl, by simp [Report.shown, verdictLines, Verdict.passes, joinLines], rfl⟩
  | cons f fs =>
    refine ⟨rfl, ?_, rfl⟩
    simp [Report.shown, verdictLines, Verdict.passes, joinLines, List.map_map, Function.comp_def]

theorem silent_of_error {i : Invocation} {t : Trouble} {r' : Run} {before : FileTree}
    {filter : Event.Filter} (htask : i.task = .compare test actual engine request)
    (h : compare c i.settings.log now test actual engine request r = .error t r')
    (hlog : Untouched i.settings.log before r'.files) :
    Silent i.settings.log before r'.files ((perform i c now r).shown filter) := by
  rw [perform_of_error htask h]
  exact ⟨rfl, rfl, rfl, hlog⟩

/-- **What comes after a comparison that has left the log alone**: its verdict is recorded and told,
unless the log does not take it. -/
theorem agrees_of_ok {i : Invocation} {v : Verdict} {filter : Event.Filter} {r₁ : Run}
    (htask : i.task = .compare test actual engine request) (now : LogSession.Moment)
    (h : compare c i.settings.log now.1 test actual engine request r =
      logged i.settings.log now.1 test engine v r₁)
    (hs : ∀ p ∈ i.settings.log, r.SparedAt (r.files.place p) r₁) :
    ((∀ p ∈ i.settings.log,
        Takes r₁.files r.environment.logDevice (recordOf now.1 test engine v) p) →
      Tells test v (eventLines filter r₁.events) ((perform i c now.1 r).shown filter) ∧
        Records i.settings.log now.1 test engine v r.files r₁.files
          ((perform i c now.1 r).shown filter)) ∧
    (¬ (∀ p ∈ i.settings.log,
        Takes r₁.files r.environment.logDevice (recordOf now.1 test engine v) p) →
      Unrecorded i.settings.log r.files r₁.files ((perform i c now.1 r).shown filter)) := by
  have hplace : ∀ p ∈ i.settings.log, r₁.files.place p = r.files.place p :=
    fun p hp => FileTree.place_congr (hs p hp).start p
  have hdevice : ∀ p ∈ i.settings.log,
      Takes r₁.files r.environment.logDevice (recordOf now.1 test engine v) p ↔
        Takes r₁.files r₁.environment.logDevice (recordOf now.1 test engine v) p :=
    fun p hp => by rw [(hs p hp).environment]
  rw [forall₂_congr hdevice]
  constructor
  · intro htakes
    obtain ⟨files, hlogged, hwritten, helsewhere⟩ := logged_of_takes htakes
    rw [perform_of_ok htask (h.trans hlogged)]
    refine ⟨tells_of_shown test v { r₁ with files := files } filter, fun p hp => ?_,
      helsewhere.congr hplace⟩
    exact (hplace p hp ▸ hwritten p hp).congr (hs p hp).content
  · intro htakes
    obtain ⟨t, files, hlogged, hunwritten, helsewhere⟩ := logged_of_not_takes htakes
    rw [perform_of_error htask (h.trans hlogged)]
    refine ⟨rfl, rfl, fun p hp => ?_, helsewhere.congr hplace⟩
    exact (hplace p hp ▸ hunwritten p hp).congr (hs p hp).content

end

/-- **A command line that compares agrees with the comparison**, however that ends: its verdict is
told alike by the code, the streams and the log, and without one nothing is told. -/
theorem agrees_of_compare {args : List Bytes} {i : Invocation} {test : Path}
    {actual : Option Path} {engine : Engine} {request : Request}
    (hparse : Invocation.parse args = .ok i) (htask : i.task = .compare test actual engine request)
    {files : FileTree} {env : Environment} {tools : Tools}
    (hlog : LogApart i files env tools test engine request) (now : LogSession.Moment) :
    Agrees i files env tools now.1 test actual engine request
      (CommandLine.run args files env tools now.1) := by
  have hrun : CommandLine.run args files env tools now.1 = execute i files env tools now.1 := by
    unfold CommandLine.run
    rw [hparse]
  rw [hrun]
  refine ⟨execute_of_unresolved, fun c hc => ?_⟩
  rw [execute_of_resolved hc]
  unfold AgreesWith
  cases houtput : outputOf? files actual engine with
  | none =>
    obtain ⟨t, ht⟩ := compare_of_no_output (r := begun c files env tools) houtput
    exact silent_of_error htask ht fun _ _ => rfl
  | some output =>
    have hcompare : compare c i.settings.log now.1 test actual engine request
        (begun c files env tools) = _ := compare_of_output houtput
    have hspared : ∀ p ∈ i.settings.log, (begun c files env tools).SparedAt (files.place p)
        (endOf (engine.compare (writerOf c) (testFile c test) output request
          (begun c files env tools))) := by
      intro p hp
      obtain ⟨hwritten, htool⟩ := hlog p hp c hc
      exact engine.sparedAt_of_compare _ _ output request hwritten htool
    dsimp only
    cases hresult : engine.compare (writerOf c) (testFile c test) output request
      (begun c files env tools) with
    | error e r =>
      rw [hresult] at hcompare hspared
      exact silent_of_error htask hcompare fun p hp => (hspared p hp).content
    | ok v r =>
      rw [hresult] at hcompare hspared
      exact agrees_of_ok htask now hcompare hspared

/-! ### A command line that calls a tool -/

theorem callSparesAt_true {r : Run} {directories : List Path}
    (htools : r.tools = .programs directories) {c : Call}
    (hprogram : c.program = .ofString "/bin/true")
    (hzero : ∀ a ∈ c.arguments, (0 : UInt8) ∉ Utf8.encode a) (loc : Location)
    (P : FileTree → Prop) : r.CallSparesAt c loc P := by
  intro files _
  have hcall : (r.tools.call files r.environment c).2.2 = files := by
    rw [htools, Tools.call, hprogram, Script.start_true files _ _ hzero]
  exact ⟨by rw [hcall], by rw [hcall]⟩

/-- A command line that compares and records, and wants a word diff. -/
def compareWords : List Bytes :=
  ["compare", "--platform", "linux", "--layout-tests", "tests", "--output-dir", "out",
    "--results-log", "log.jsonl", "--wdiff", "--wdiff-path", "/bin/true", "a.html",
    "--actual", "a.txt"].map Utf8.encode

/-- What that command line asks for. -/
def compareInvocation : Invocation :=
  ⟨false, .compare (.ofString "a.html") (some (.ofString "a.txt")) .text
      ⟨false, none, none, true, false⟩,
    ⟨none, some "linux", some (.ofString "tests"), some (.ofString "out"), none,
      some (.ofString "/bin/true"), none, some (.ofString "log.jsonl")⟩⟩

/-- A tree that holds an output and another text as its baseline. -/
def heldTexts : FileTree :=
  ((FileTree.empty.addDirectory [] (Utf8.encode "tests")).setFile [Utf8.encode "tests"]
    (Utf8.encode "a-expected.txt") [98] false).setFile [] (Utf8.encode "a.txt") [97] false

/-- An output that differs from its baseline, compared on that command line: a failure. -/
theorem agrees_of_first_compare :
    (CommandLine.run compareWords heldTexts .empty (.programs [])
      LogSession.someMoment.1).code = 1 ∧
    Agrees compareInvocation heldTexts .empty (.programs []) LogSession.someMoment.1
      (.ofString "a.html") (some (.ofString "a.txt")) .text ⟨false, none, none, true, false⟩
      (CommandLine.run compareWords heldTexts .empty (.programs [])
        LogSession.someMoment.1) := by
  refine ⟨by decide +kernel, agrees_of_compare rfl rfl ?_ LogSession.someMoment⟩
  rintro log ⟨⟩ c hc
  have hresolved : compareInvocation.settings.Resolved heldTexts .empty
      ⟨"linux", .ofString "tests", .ofString "out", none, some (.ofString "/bin/true"), .default⟩ :=
    Settings.resolve_eq_ok.mp rfl
  obtain rfl := hresolved.unique hc
  exact ⟨by decide +kernel, fun _ _ => callSparesAt_true rfl rfl (by decide +kernel) _ _⟩

end Baseline.CommandLine
