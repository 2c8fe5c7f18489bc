import Baseline.Artifact
import Baseline.Proofs.Run

/-!
# The word-diff stage

What happens when a word diff is due: nothing is called once the tool is known
to be missing; else the tool is called once, and its answer decides.
`wordDiffPage_eq` says all of it, so that nothing after this has to look into
`wordDiffPage`.

All else that a comparison does is file work, so a relation holds along the whole of it as soon
as it holds along file work and along the stage (`WorkOrder`).  The tool is called once it
finds the two artifacts; that the files change at the given paths only is a relation of this kind
when this call spares the files (`workOrder_of_toolSpares`).
-/

namespace Baseline

namespace WordDiff

/-- Whether an answer says that the tool is missing. -/
def IsMissing (answer : Except Fault Bytes) : Prop :=
  ∃ fault, answer = .error fault ∧ classify fault = .unavailable

@[simp] theorem not_isMissing_ok (output : Bytes) : ¬ IsMissing (.ok output) := by
  rintro ⟨fault, h, -⟩
  simp at h

@[simp] theorem isMissing_error {fault : Fault} :
    IsMissing (.error fault) ↔ classify fault = .unavailable := by
  simp [IsMissing]

/-- The page that an answer of the tool leads to; none when the answer is fatal. -/
def Page.ofAnswer? : Except Fault Bytes → Option Page
  | .ok output => some (.ofOutput output)
  | .error fault =>
    match classify fault with
    | .unavailable => some .notInstalled
    | .transient => some .concurrentFailure
    | .fatal => none

/-- The page of a word diff, given whether the tool is called and what it answers. -/
def Page.of? (available : Bool) (answer : Except Fault Bytes) : Option Page :=
  if available then Page.ofAnswer? answer else some .notInstalled

end WordDiff

namespace Writer

open Action WordDiff

/-- The call of the tool on two artifacts. -/
def toolCall (w : Writer) (r : Run) (expected actual : Path) : Call :=
  ⟨w.checkout.tool r.environment, WordDiff.arguments expected actual⟩

/-- What the tool answers to the call on two artifacts. -/
def toolAnswer (w : Writer) (r : Run) (expected actual : Path) : Except Fault Bytes :=
  (r.tools.call r.files r.environment (w.toolCall r expected actual)).1

/-- A run after the tool was called. -/
def afterCall (w : Writer) (r : Run) (expected actual : Path) : Run :=
  let c := w.toolCall r expected actual
  { r with
    files := (r.tools.call r.files r.environment c).2.2
    tools := (r.tools.call r.files r.environment c).2.1
    calls := r.calls ++ [c] }

/-- **The word-diff stage**, case by case. -/
theorem wordDiffPage_eq (w : Writer) (expected actual : Path) (r : Run) :
    w.wordDiffPage expected actual r =
      if r.availability.isAvailable then
        match w.toolAnswer r expected actual with
        | .ok output => .ok (.ofOutput output) (w.afterCall r expected actual)
        | .error fault =>
          match classify fault with
          | .unavailable =>
            .ok .notInstalled
              { w.afterCall r expected actual with
                availability := ⟨false⟩
                events := r.events ++ [.toolUnavailable (w.checkout.tool r.environment) fault] }
          | .transient =>
            .ok .concurrentFailure
              { w.afterCall r expected actual with
                events := r.events ++ [.spawnFailed (w.checkout.tool r.environment) fault] }
          | .fatal =>
            .error (.tool (w.checkout.tool r.environment) fault) (w.afterCall r expected actual)
      else .ok .notInstalled r := by
  unfold wordDiffPage
  rw [bind_of_ok (get_apply r)]
  cases ha : r.availability.isAvailable with
  | false => rfl
  | true =>
    simp only [Bool.not_true, Bool.false_eq_true, if_false, if_true]
    have hcall : Run.call (w.toolCall r expected actual) r =
        .ok (w.toolAnswer r expected actual) (w.afterCall r expected actual) := rfl
    rw [show (⟨w.checkout.tool r.environment, WordDiff.arguments expected actual⟩ : Call) =
      w.toolCall r expected actual from rfl, bind_of_ok hcall]
    cases w.toolAnswer r expected actual with
    | ok output => rfl
    | error fault =>
      dsimp only
      cases classify fault with
      | unavailable =>
        have hgive : Run.giveUpWordDiffs (w.afterCall r expected actual) =
            .ok true { w.afterCall r expected actual with availability := ⟨false⟩ } := by
          rw [← ha]
          rfl
        dsimp only
        rw [bind_of_ok hgive]
        rfl
      | transient => rfl
      | fatal => rfl

/-- **The files after the stage** are those that a call leaves, if there is one. -/
theorem files_endOf_wordDiffPage (w : Writer) (expected actual : Path) (r : Run) :
    (endOf (w.wordDiffPage expected actual r)).files =
      if r.availability.isAvailable then (w.afterCall r expected actual).files else r.files := by
  rw [wordDiffPage_eq]
  split
  · split
    · rfl
    · split <;> rfl
  · rfl

theorem environment_endOf_wordDiffPage (w : Writer) (expected actual : Path) (r : Run) :
    (endOf (w.wordDiffPage expected actual r)).environment = r.environment := by
  rw [wordDiffPage_eq]
  split
  · split
    · rfl
    · split <;> rfl
  · rfl

/-- The call does not hang on what was done to the files before. -/
theorem toolCall_congr {r r' : Run} (h : r'.environment = r.environment) (w : Writer)
    (expected actual : Path) : w.toolCall r' expected actual = w.toolCall r expected actual := by
  rw [toolCall, toolCall, h]

/-- A relation of runs that all a comparison does from a run on leads along: file work at the given
paths and, at a run to which such work has led, the word-diff stage for two artifacts. -/
structure WorkOrder (w : Writer) (writes dirs : List Path) (expected actual : Path) (before : Run)
    (R : Run → Run → Prop) : Prop extends RunOrder R where
  fileWork : ∀ {r r'}, Run.FileWork writes dirs r r' → R r r'
  wordDiff : ∀ r, before.FileWork writes dirs r → R r (endOf (w.wordDiffPage expected actual r))

section

variable {w : Writer} {writes dirs : List Path} {expected actual : Path} {r : Run}

/-- File work is part of the work. -/
theorem WorkOrder.leads {R : Run → Run → Prop} (h : w.WorkOrder writes dirs expected actual r R)
    {α : Type} {x : Action α} (hx : Leads (Run.FileWork writes dirs) x) : Leads R x :=
  hx.mono fun _ _ => h.fileWork

/-- The work goes on from a run to which file work has led. -/
theorem WorkOrder.from {R : Run → Run → Prop} (h : w.WorkOrder writes dirs expected actual r R)
    {r' : Run} (hr : r.FileWork writes dirs r') :
    w.WorkOrder writes dirs expected actual r' R :=
  { h with wordDiff := fun r₂ hr₂ =>
      h.wordDiff r₂ ((Run.FileWork.order writes dirs).trans hr hr₂) }

/-- The tool that is called for the word diff of two artifacts, unless it is known to be missing,
leaves the files alone, however they have changed at the given paths before. -/
def ToolSpares (w : Writer) (writes dirs : List Path) (expected actual : Path) (r : Run) : Prop :=
  r.availability.isAvailable = true →
    r.CallSpares (w.toolCall r expected actual) (r.files.ChangesOnly writes dirs)

/-- The stage itself changes no file, however it ends, when the tool spares the files. -/
theorem files_endOf_of_toolSpares (h : w.ToolSpares writes dirs expected actual r) {r' : Run}
    (hr : r.FileWork writes dirs r') :
    (endOf (w.wordDiffPage expected actual r')).files = r'.files := by
  rw [files_endOf_wordDiffPage]
  split
  · rename_i ha
    have hspared := (h (hr.availability ▸ ha)).congr hr.tools hr.environment
    show (r'.tools.call r'.files r'.environment (w.toolCall r' expected actual)).2.2 = r'.files
    rw [toolCall_congr hr.environment]
    exact hspared r'.files hr.files
  · rfl

theorem ToolSpares.mono {writes' dirs' : List Path}
    (h : w.ToolSpares writes' dirs' expected actual r) (hw : ∀ p ∈ writes, p ∈ writes')
    (hd : ∀ q ∈ dirs, q ∈ dirs') : w.ToolSpares writes dirs expected actual r :=
  fun ha => (h ha).mono fun _ hc => hc.mono hw hd

theorem toolSpares_scripted {answers : List (Except Fault Bytes)} {fallback : Bytes}
    (h : r.tools = .scripted answers fallback) : w.ToolSpares writes dirs expected actual r :=
  fun _ => Run.callSpares_scripted h _ _

/-- **When the tool spares the files**, all the work changes them at the given paths only. -/
theorem workOrder_of_toolSpares (h : w.ToolSpares writes dirs expected actual r) :
    w.WorkOrder writes dirs expected actual r fun r₁ r₂ =>
      r₁.files.ChangesOnly writes dirs r₂.files where
  refl _ := .refl _ _ _
  trans h₁ h₂ := h₁.trans h₂
  fileWork h := h.files
  wordDiff r' hr := by
    rw [files_endOf_of_toolSpares h hr]
    exact .refl _ _ _

end

/-- **The page is the one that the tool's answer leads to.** -/
theorem page_of_wordDiffPage {w : Writer} {expected actual : Path} {r r' : Run} {page : Page}
    (h : w.wordDiffPage expected actual r = .ok page r') :
    Page.of? r.availability.isAvailable (w.toolAnswer r expected actual) = some page := by
  rw [wordDiffPage_eq] at h
  unfold Page.of? Page.ofAnswer?
  split at h
  · rename_i ha
    rw [if_pos ha]
    split at h
    · simp_all
    · split at h <;> simp_all
  · rename_i ha
    rw [if_neg ha]
    simp_all

end Writer

end Baseline
