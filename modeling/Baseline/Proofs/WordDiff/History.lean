import Baseline.Proofs.Comparison.Frame
import Baseline.Proofs.WordDiff.Answer

/-!
# Word diffs over a run

A run is any list of tasks, each a call of `writeResults` or a comparison, of any
number of writers.

A task comes to the word-diff stage once or not at all: `Task.beforeWords` is all
it does before, and `Task.perform_eq` says that nothing but the stage comes after
it.  So what a task has to do with the tool is what the stage has (`Task.Outcome`),
and the invariant `Run.Answered` holds after any list of tasks
(`answered_history`).
-/

namespace Baseline

open Action WordDiff

/-! ### Tasks -/

/-- One call on a run. -/
inductive Task
  | write (w : Writer) (test : Path) (tag extension : String) (actual expected : Option Bytes)
    (diffs : Diffs)
  | compare (w : Writer) (engine : Engine) (test : Path) (output : Bytes) (request : Request)

namespace Task

/-- Make the call. -/
def perform : Task → Action Unit
  | .write w test tag extension actual expected diffs => do
    let _ ← w.writeResults test tag extension actual expected diffs
  | .compare w engine test output request => do
    let _ ← engine.compare w test output request

/-- All that `writeResults` does before the word-diff stage, and the stage that it comes to. -/
def upToWords (w : Writer) (test : Path) (tag extension : String)
    (actual expected : Option Bytes) (diffs : Diffs) : Action (Option Stage) := do
  w.writeTexts test tag extension actual expected diffs.lines
  return if Writer.wantsWords actual expected diffs then some ⟨w, test, tag, extension⟩ else none

/-- All that a call does before the word-diff stage, and the stage that it comes to. -/
def beforeWords : Task → Action (Option Stage)
  | .write w test tag extension actual expected diffs =>
    upToWords w test tag extension actual expected diffs
  | .compare w .text test output request =>
    if request.newBaseline then do
      let _ ← w.saveBaseline test output TextComparison.extension
      return none
    else do
      let expected ← TextComparison.expectedText w test request.showSources
      if expected = output then return none
      upToWords w test "" TextComparison.extension (some output) (some expected)
        (.standard request.wordDiff)
  | .compare w .checksum test _ request => do
    let _ ← ChecksumComparison.compare w test request
    return none

/-- What a call does at the stage that it comes to. -/
def atWords : Option Stage → Action Unit
  | some g => g.work
  | none => pure ()

theorem upToWords_bind (w : Writer) (test : Path) (tag extension : String)
    (actual expected : Option Bytes) (diffs : Diffs) :
    (do let _ ← w.writeResults test tag extension actual expected diffs) =
      upToWords w test tag extension actual expected diffs >>= atWords := by
  rw [Writer.writeResults_eq, upToWords]
  simp only [bind_assoc, pure_bind]
  refine congrArg (w.writeTexts test tag extension actual expected diffs.lines >>= ·)
    (funext fun _ => ?_)
  cases Writer.wantsWords actual expected diffs with
  | true => simp [atWords, Stage.work]
  | false => simp [atWords]

/-- **A call is what comes before the stage, and the stage.** -/
theorem perform_eq (t : Task) : t.perform = t.beforeWords >>= atWords := by
  cases t with
  | write w test tag extension actual expected diffs => exact upToWords_bind ..
  | compare w engine test output request =>
    cases engine with
    | text =>
      unfold perform beforeWords Engine.compare
      by_cases h : request.newBaseline = true
      · simp only [TextComparison.compare_of_promoting h, if_pos h, bind_assoc, pure_bind, atWords]
      · simp only [TextComparison.compare_of_comparing (Bool.not_eq_true _ ▸ h), if_neg h,
          bind_assoc]
        refine congrArg (TextComparison.expectedText w test request.showSources >>= ·)
          (funext fun expected => ?_)
        split
        · simp only [pure_bind, atWords]
        · rw [← upToWords_bind]
          simp only [bind_assoc, pure_bind]
    | checksum => simp only [perform, beforeWords, Engine.compare, bind_assoc, pure_bind, atWords]

theorem upToWords_fileWork (w : Writer) (test : Path) (tag extension : String)
    (actual expected : Option Bytes) (diffs : Diffs) :
    Leads (Run.FileWork (w.textPaths test tag extension) (w.artifactDir test).ancestors)
      (upToWords w test tag extension actual expected diffs) := by
  refine Leads.bind (Run.FileWork.order _ _) ?_ fun _ => Leads.pure (Run.FileWork.order _ _) _
  exact w.writeTexts_fileWork test tag extension actual expected diffs.lines
    (fun _ hp => Writer.mem_textPaths_of_texts hp) fun _ hq => hq

theorem eq_of_upToWords {w : Writer} {test : Path} {tag extension : String}
    {actual expected : Option Bytes} {diffs : Diffs} {r m : Run} {g : Stage}
    (h : upToWords w test tag extension actual expected diffs r = .ok (some g) m) :
    g = ⟨w, test, tag, extension⟩ := by
  obtain ⟨⟨⟩, m', -, h⟩ := bind_eq_ok.mp h
  split at h
  · obtain ⟨rfl, -⟩ : (⟨w, test, tag, extension⟩ : Stage) = g ∧ m' = m := by simpa using h
    rfl
  · simp at h

/-- What comes before the stage is file work. -/
theorem beforeWords_fileWork (t : Task) :
    ∃ writes dirs, Leads (Run.FileWork writes dirs) t.beforeWords := by
  have horder := Run.FileWork.order
  cases t with
  | write w test tag extension actual expected diffs =>
    exact ⟨_, _, upToWords_fileWork w test tag extension actual expected diffs⟩
  | compare w engine test output request =>
    cases engine with
    | text =>
      by_cases h : request.newBaseline = true
      · simp only [beforeWords, if_pos h]
        exact ⟨_, _, Leads.bind (horder _ _) (w.saveBaseline_fileWork test output
          TextComparison.extension (List.mem_singleton_self _) fun _ hq => hq)
          fun _ => Leads.pure (horder _ _) _⟩
      · simp only [beforeWords, if_neg h]
        refine ⟨_, _, Leads.bind (horder _ _)
          (Run.leads_fileWork (TextComparison.expectedText_looks w test request.showSources))
          fun expected =>
          Leads.ite (fun _ => Leads.pure (horder _ _) _) fun _ =>
            upToWords_fileWork w test "" TextComparison.extension (some output) (some expected)
              (.standard request.wordDiff)⟩
    | checksum =>
      exact ⟨_, _, Leads.bind (horder _ _) (Engine.checksum.compare_fileWork output rfl)
        fun _ => Leads.pure (horder _ _) _⟩

/-- Only the texts of the call are written before the stage. -/
theorem fileWork_of_stage {t : Task} {r m : Run} {g : Stage}
    (h : t.beforeWords r = .ok (some g) m) :
    r.FileWork (g.writer.textPaths g.test g.tag g.extension) (g.writer.artifactDir g.test).ancestors
      m := by
  cases t with
  | write w test tag extension actual expected diffs =>
    obtain rfl := eq_of_upToWords h
    exact (upToWords_fileWork w test tag extension actual expected diffs).of_ok h
  | compare w engine test output request =>
    cases engine with
    | text =>
      simp only [beforeWords] at h
      split at h
      · obtain ⟨_, _, -, h⟩ := bind_eq_ok.mp h
        simp at h
      · obtain ⟨expected, r₁, hexpected, h⟩ := bind_eq_ok.mp h
        split at h
        · simp at h
        · obtain rfl := eq_of_upToWords h
          exact (Run.FileWork.order _ _).trans
            ((TextComparison.expectedText_looks w test request.showSources).of_ok
              hexpected).fileWork
            ((upToWords_fileWork w test "" TextComparison.extension (some output) (some expected)
              (.standard request.wordDiff)).of_ok h)
    | checksum =>
      obtain ⟨_, _, -, h⟩ := bind_eq_ok.mp h
      simp at h

/-- What a call on the run `r` does: it comes to the word-diff stage, having written its texts at
most, or it ends before the stage and leaves the tool alone. -/
def Outcome (t : Task) (s : Answers) (r : Run) : Prop :=
  match t.beforeWords r with
  | .ok (some g) m =>
    r.FileWork (g.writer.textPaths g.test g.tag g.extension)
      (g.writer.artifactDir g.test).ancestors m ∧ g.Outcome s m (t.perform r)
  | .ok none m => t.perform r = .ok () m ∧ ∃ writes dirs, r.FileWork writes dirs m
  | .error e m => t.perform r = .error e m ∧ ∃ writes dirs, r.FileWork writes dirs m

/-- **A call keeps the invariant**, and this is what it does. -/
theorem answered_perform {s : Answers} {r : Run} (h : r.Answered s) (t : Task) :
    (endOf (t.perform r)).Answered s ∧ t.Outcome s r := by
  obtain ⟨writes, dirs, hbefore⟩ := t.beforeWords_fileWork
  unfold Outcome
  rw [perform_eq]
  cases hr : t.beforeWords r with
  | ok found m =>
    have hwork := hbefore.of_ok hr
    rw [bind_of_ok hr]
    cases found with
    | none => exact ⟨h.of_fileWork hwork, rfl, writes, dirs, hwork⟩
    | some g =>
      have htexts := fileWork_of_stage hr
      obtain ⟨hanswered, houtcome⟩ := Stage.answered_work (g := g) (h.of_fileWork htexts)
      exact ⟨hanswered, htexts, houtcome⟩
  | error e m =>
    have hwork := hbefore.of_error hr
    rw [bind_of_error hr]
    exact ⟨h.of_fileWork hwork, rfl, writes, dirs, hwork⟩

end Task

/-! ### Runs -/

/-- A run after a call, however that ends. -/
def Run.after (r : Run) (t : Task) : Run := endOf (t.perform r)

/-- A fresh run after any calls. -/
def history (s : Answers) (files : FileTree) (environment : Environment) (tasks : List Task) :
    Run := tasks.foldl Run.after (.begin files environment (s.after 0))

theorem Run.Answered.of_tasks {s : Answers} {r : Run} (h : r.Answered s) (tasks : List Task) :
    (tasks.foldl Run.after r).Answered s := by
  induction tasks generalizing r with
  | nil => exact h
  | cons t tasks ih => exact ih (t.answered_perform h).1

/-- Once the tool is known to be missing, a call does not call it. -/
theorem Run.calls_after {s : Answers} {r : Run} (h : r.Answered s)
    (ha : r.availability.isAvailable = false) (t : Task) :
    (r.after t).calls = r.calls ∧ (r.after t).availability = r.availability := by
  have houtcome := (t.answered_perform h).2
  unfold Run.after
  unfold Task.Outcome at houtcome
  split at houtcome
  · obtain ⟨hwork, houtcome⟩ := houtcome
    rw [Stage.Outcome, if_neg (by simp [hwork.availability, ha])] at houtcome
    exact ⟨houtcome.1.trans hwork.calls, houtcome.2.1.trans hwork.availability⟩
  · obtain ⟨hresult, writes, dirs, hwork⟩ := houtcome
    rw [hresult]
    exact ⟨hwork.calls, hwork.availability⟩
  · obtain ⟨hresult, writes, dirs, hwork⟩ := houtcome
    rw [hresult]
    exact ⟨hwork.calls, hwork.availability⟩

/-- Nor does any call after it. -/
theorem Run.calls_after_all {s : Answers} {r : Run} (h : r.Answered s)
    (ha : r.availability.isAvailable = false) (tasks : List Task) :
    (tasks.foldl Run.after r).calls = r.calls ∧
      (tasks.foldl Run.after r).availability = r.availability := by
  induction tasks generalizing r with
  | nil => exact ⟨rfl, rfl⟩
  | cons t tasks ih =>
    obtain ⟨hcalls, hflag⟩ := r.calls_after h ha t
    obtain ⟨hcalls', hflag'⟩ := ih (t.answered_perform h).1 (hflag ▸ ha)
    exact ⟨hcalls'.trans hcalls, hflag'.trans hflag⟩

/-- **The word-diff tool over any run**: the flag, the calls and the reports agree after any calls,
the next one does what its outcome says, and once the tool is known to be missing, no call ever
calls it again. -/
theorem answered_history (s : Answers) (files : FileTree) (environment : Environment)
    (tasks later : List Task) (next : Task) :
    (history s files environment tasks).Answered s ∧
    next.Outcome s (history s files environment tasks) ∧
    ((history s files environment tasks).availability.isAvailable = false →
      (history s files environment (tasks ++ later)).calls =
          (history s files environment tasks).calls ∧
        (history s files environment (tasks ++ later)).availability.isAvailable = false) := by
  have h : (history s files environment tasks).Answered s :=
    (Run.Answered.of_begin s files environment).of_tasks tasks
  refine ⟨h, (next.answered_perform h).2, fun ha => ?_⟩
  have hsplit : history s files environment (tasks ++ later) =
      later.foldl Run.after (history s files environment tasks) := List.foldl_append
  obtain ⟨hcalls, hflag⟩ := Run.calls_after_all h ha later
  rw [hsplit]
  exact ⟨hcalls, hflag ▸ ha⟩

end Baseline
