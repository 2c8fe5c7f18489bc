import Baseline.Proofs.Artifact.Writing

/-!
# Answers of the word-diff tool

The tool answers from a list (`Answers`), one answer for each call.  Writers that
share a run share one flag of what they know of the tool, and `Run.Answered` ties
the flag to the answers: it is up as long as no call was answered by a missing
tool, such an answer is the last one, and it is reported once.

File work keeps that, and so does the word-diff stage, which is the only part of a
call that has to do with the tool.  What the stage does is `Stage.Outcome`, by the
flag and the answer (`Stage.answered_work`).
-/

namespace Baseline

open Action WordDiff

/-! ### Answers -/

/-- What the tool answers to the calls of a run: a list of answers and one output for all calls
after those. -/
structure Answers where
  given : List (Except Fault Bytes)
  fallback : Bytes

namespace Answers

/-- The answer to a call, the first call being call 0. -/
def nth (s : Answers) (k : Nat) : Except Fault Bytes := s.given[k]?.getD (.ok s.fallback)

/-- The tools after a number of calls. -/
def after (s : Answers) (k : Nat) : Tools := .scripted (s.given.drop k) s.fallback

theorem call_after (s : Answers) (k : Nat) (files : FileTree) (environment : Environment)
    (c : Call) : (s.after k).call files environment c = (s.nth k, s.after (k + 1), files) := by
  unfold after nth
  rcases Nat.lt_or_ge k s.given.length with hk | hk
  · rw [List.drop_eq_getElem_cons hk, List.getElem?_eq_getElem hk]
    rfl
  · rw [List.drop_eq_nil_of_le hk, List.drop_eq_nil_of_le (by omega), List.getElem?_eq_none hk]
    rfl

end Answers

/-! ### The invariant -/

/-- What is known of the tool when every call was answered from a list. -/
structure Run.Answered (s : Answers) (r : Run) : Prop where
  /-- One answer was taken for each call. -/
  tools : r.tools = s.after r.calls.length
  /-- The tool is worth calling as long as no answer said that it is missing. -/
  available_iff : r.availability.isAvailable = true ↔
    ∀ k < r.calls.length, ¬ IsMissing (s.nth k)
  /-- A call that was answered so is the last one. -/
  last : ∀ k < r.calls.length, IsMissing (s.nth k) → k + 1 = r.calls.length
  /-- It was reported once. -/
  warnings : (r.events.filter Event.isToolUnavailable).length =
    if r.availability.isAvailable then 0 else 1

namespace Run.Answered

variable {s : Answers} {r r' : Run}

theorem of_begin (s : Answers) (files : FileTree) (environment : Environment) :
    (Run.begin files environment (s.after 0)).Answered s where
  tools := rfl
  available_iff := by simp [Run.begin, Availability.initial]
  last := by simp [Run.begin]
  warnings := by simp [Run.begin, Availability.initial]

/-- File work has nothing to do with the tool. -/
theorem of_fileWork {writes dirs : List Path} (h : r.Answered s)
    (hr : r.FileWork writes dirs r') : r'.Answered s where
  tools := by rw [hr.tools, hr.calls, h.tools]
  available_iff := by rw [hr.availability, hr.calls, h.available_iff]
  last := by rw [hr.calls]; exact h.last
  warnings := by rw [hr.warnings, hr.availability, h.warnings]

/-- **One more call** while the tool is worth calling. -/
theorem of_call (h : r.Answered s) (ha : r.availability.isAvailable = true) {c : Call}
    (ht : r'.tools = s.after (r.calls.length + 1)) (hc : r'.calls = r.calls ++ [c])
    (hm : r'.availability.isAvailable = true ↔ ¬ IsMissing (s.nth r.calls.length))
    (hw : (r'.events.filter Event.isToolUnavailable).length =
      if r'.availability.isAvailable then 0 else 1) : r'.Answered s := by
  have hnone := h.available_iff.mp ha
  have hlength : r'.calls.length = r.calls.length + 1 := by simp [hc]
  refine ⟨hlength ▸ ht, ?_, ?_, hw⟩
  · rw [hm, hlength]
    constructor
    · intro hlast k hk
      rcases Nat.lt_succ_iff_lt_or_eq.mp hk with hk | rfl
      · exact hnone k hk
      · exact hlast
    · exact fun hall => hall _ (Nat.lt_succ_self _)
  · intro k hk hmissing
    rw [hlength] at hk ⊢
    rcases Nat.lt_succ_iff_lt_or_eq.mp hk with hk | rfl
    · exact absurd hmissing (hnone k hk)
    · rfl

end Run.Answered

/-! ### One stage -/

/-- What comes to the word-diff stage: the artifacts of a call. -/
structure Stage where
  writer : Writer
  test : Path
  tag : String
  extension : String

namespace Stage

/-- Where the word diff goes. -/
def path (g : Stage) : Path := g.writer.wordDiffPath g.test g.tag

/-- The artifacts that are compared by words. -/
def expected (g : Stage) : Path := g.writer.expectedPath g.test g.tag g.extension

@[inherit_doc expected]
def actual (g : Stage) : Path := g.writer.actualPath g.test g.tag g.extension

/-- The call of the tool. -/
def call (g : Stage) (r : Run) : Call := g.writer.toolCall r g.expected g.actual

/-- What is left to do at the stage. -/
def work (g : Stage) : Action Unit := g.writer.writeWordDiff g.test g.tag g.extension

/-- The page has been written, or could not be. -/
def Leaves (g : Stage) (page : Page) (r : Run) : EStateM.Result RunError Run Unit → Prop
  | .ok _ r' => r.files.writeFile g.path (Utf8.encode page.html) = .ok r'.files
  | .error e r' => ∃ fault, r.files.writeFile g.path (Utf8.encode page.html) = .error fault ∧
    e = .file g.path fault ∧ r'.files = r.files

/-- What a call that is at the stage in the run `r` does from there on.  A tool that is known to be
missing is not called, and the page says so.  Else it is called once: a success is rendered, a lost
race concerns this page alone, a missing tool is not worth calling again, and anything else ends
the call before anything is written. -/
def Outcome (g : Stage) (s : Answers) (r : Run) (result : EStateM.Result RunError Run Unit) :
    Prop :=
  if r.availability.isAvailable then
    (endOf result).calls = r.calls ++ [g.call r] ∧
    match s.nth r.calls.length with
    | .ok output =>
      (endOf result).availability = r.availability ∧ g.Leaves (.ofOutput output) r result
    | .error fault =>
      match classify fault with
      | .transient =>
        (endOf result).availability = r.availability ∧ g.Leaves .concurrentFailure r result
      | .unavailable =>
        (endOf result).availability.isAvailable = false ∧ g.Leaves .notInstalled r result
      | .fatal =>
        (endOf result).availability = r.availability ∧ (endOf result).files = r.files ∧
          ∃ r', result = .error (.tool (g.writer.checkout.tool r.environment) fault) r'
  else
    (endOf result).calls = r.calls ∧ (endOf result).availability = r.availability ∧
      g.Leaves .notInstalled r result

variable {g : Stage} {s : Answers} {r r' : Run}

theorem toolAnswer_eq (h : r.Answered s) :
    g.writer.toolAnswer r g.expected g.actual = s.nth r.calls.length := by
  rw [Writer.toolAnswer, h.tools, s.call_after]

theorem files_afterCall (h : r.Answered s) :
    (g.writer.afterCall r g.expected g.actual).files = r.files := by
  show (r.tools.call r.files r.environment _).2.2 = r.files
  rw [h.tools, s.call_after]

theorem tools_afterCall (h : r.Answered s) :
    (g.writer.afterCall r g.expected g.actual).tools = s.after (r.calls.length + 1) := by
  show (r.tools.call r.files r.environment _).2.1 = _
  rw [h.tools, s.call_after]

/-- Writing the page leaves it. -/
theorem leaves_of_write (page : Page) (hfiles : r'.files = r.files) :
    g.Leaves page r (Run.write g.path (Utf8.encode page.html) r') := by
  rw [Run.write_apply, hfiles]
  cases h : r.files.writeFile g.path (Utf8.encode page.html) with
  | ok files => exact h
  | error fault => exact ⟨fault, h, rfl, rfl⟩

/-- Once there is a page, it is written, and the tool is left alone. -/
theorem work_of_page {page : Page} {m : Run}
    (h : g.writer.wordDiffPage g.expected g.actual r = .ok page m) (hm : m.Answered s)
    (hfiles : m.files = r.files) :
    (endOf (g.work r)).Answered s ∧ (endOf (g.work r)).calls = m.calls ∧
      (endOf (g.work r)).availability = m.availability ∧ g.Leaves page r (g.work r) := by
  have hwork : g.work r = Run.write g.path (Utf8.encode page.html) m := bind_of_ok h
  have hwrite : m.FileWork [g.path] [] (endOf (g.work r)) :=
    hwork ▸ Run.write_fileWork (by simp) _ m
  exact ⟨hm.of_fileWork hwrite, hwrite.calls, hwrite.availability,
    hwork ▸ leaves_of_write page hfiles⟩

/-- **The stage keeps the invariant**, and this is what it does. -/
theorem answered_work (h : r.Answered s) :
    (endOf (g.work r)).Answered s ∧ g.Outcome s r (g.work r) := by
  have hpage := g.writer.wordDiffPage_eq g.expected g.actual r
  unfold Outcome
  by_cases ha : r.availability.isAvailable = true
  · have hwarnings := h.warnings
    rw [if_pos ha] at hpage hwarnings ⊢
    rw [toolAnswer_eq h] at hpage
    cases hn : s.nth r.calls.length with
    | ok output =>
      simp only [hn] at hpage ⊢
      have hm : (g.writer.afterCall r g.expected g.actual).Answered s :=
        h.of_call ha (tools_afterCall h) rfl (by simp [hn, Writer.afterCall, ha])
          (by simp [Writer.afterCall, ha, hwarnings])
      exact work_of_page hpage hm (files_afterCall h)
    | error fault =>
      simp only [hn] at hpage ⊢
      cases hc : classify fault with
      | unavailable =>
        simp only [hc] at hpage ⊢
        obtain ⟨hanswered, hcalls, hflag, hleaves⟩ := work_of_page hpage
          (h.of_call ha (tools_afterCall h) rfl (by simp [hn, hc])
            (by simp [List.filter_cons, hwarnings, Event.isToolUnavailable])) (files_afterCall h)
        exact ⟨hanswered, hcalls, by rw [hflag], hleaves⟩
      | transient =>
        simp only [hc] at hpage ⊢
        exact work_of_page hpage
          (h.of_call ha (tools_afterCall h) rfl (by simp [hn, hc, Writer.afterCall, ha])
            (by simp [Writer.afterCall, ha, hwarnings, Event.isToolUnavailable]))
          (files_afterCall h)
      | fatal =>
        simp only [hc] at hpage ⊢
        have hwork : g.work r = _ := bind_of_error hpage
        rw [hwork]
        exact ⟨h.of_call ha (tools_afterCall h) rfl (by simp [hn, hc, endOf, Writer.afterCall, ha])
          (by simp [endOf, Writer.afterCall, ha, hwarnings]), rfl, rfl, files_afterCall h, _, rfl⟩
  · rw [if_neg ha] at hpage ⊢
    exact work_of_page hpage h rfl

end Stage

end Baseline
