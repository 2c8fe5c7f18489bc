import Baseline.Proofs.Comparison.Frame

/-!
# Files that a comparison has nothing to do with

A comparison writes its artifacts, or the baselines that it promotes
(`Engine.writtenPaths`), and calls a tool when it wants a word diff.  A file that is none of
these and that the tool leaves alone when it is called is as it was in the end, whatever the
comparison comes to (`Engine.sparedAt_of_compare`).

Without that call all a comparison does is file work (`Engine.compare_fileWork`).  With it
the files have changed as file work changes them when the tool is called, and again when
it has returned, but what the tool has done in between is not file work.  So the call is not asked
to leave more alone than that one file.
-/

namespace Baseline

open Action

namespace Run

/-- The file at a location stays as it is, and so does where relative paths start. -/
structure SparedAt (loc : Location) (r r' : Run) : Prop where
  content : r'.files.content? loc = r.files.content? loc
  start : r'.files.start = r.files.start
  environment : r'.environment = r.environment

variable {loc : Location} {writes dirs : List Path} {r : Run}

theorem sparedAt_of_fileWork (hw : ∀ p ∈ writes, r.files.place p ≠ loc) {r' : Run}
    (h : FileWork writes dirs r r') : SparedAt loc r r' :=
  ⟨h.files.content? hw, h.files.start, h.environment⟩

end Run

namespace Writer

variable {w : Writer} {writes dirs : List Path} {expected actual : Path} {loc : Location} {r : Run}

/-- The tool that is called for the word diff of two artifacts, unless it is known to be missing,
leaves the file at a location alone, however the files have changed at the given paths before. -/
def ToolSparesAt (w : Writer) (writes dirs : List Path) (expected actual : Path) (loc : Location)
    (r : Run) : Prop :=
  r.availability.isAvailable = true →
    r.CallSparesAt (w.toolCall r expected actual) loc (r.files.ChangesOnly writes dirs)

theorem sparedAt_of_toolSparesAt (h : w.ToolSparesAt writes dirs expected actual loc r) {r' : Run}
    (hr : r.FileWork writes dirs r') :
    r'.SparedAt loc (endOf (w.wordDiffPage expected actual r')) := by
  have hfiles := w.files_endOf_wordDiffPage expected actual r'
  have henvironment := w.environment_endOf_wordDiffPage expected actual r'
  split at hfiles
  · rename_i ha
    have hcall := (h (hr.availability ▸ ha)).congr hr.tools hr.environment r'.files hr.files
    rw [← toolCall_congr hr.environment] at hcall
    exact ⟨hfiles ▸ hcall.1, hfiles ▸ hcall.2, henvironment⟩
  · exact ⟨by rw [hfiles], by rw [hfiles], henvironment⟩

/-- **When the tool leaves the file alone** and it is none of those that are written, all the work
leaves it alone. -/
theorem workOrder_of_toolSparesAt (hw : ∀ p ∈ writes, r.files.place p ≠ loc)
    (h : w.ToolSparesAt writes dirs expected actual loc r) :
    w.WorkOrder writes dirs expected actual r fun r₁ r₂ =>
      r₁.files.start = r.files.start → r₁.SparedAt loc r₂ where
  refl _ _ := ⟨rfl, rfl, rfl⟩
  trans h₁ h₂ hstart :=
    have hfirst := h₁ hstart
    have hsecond := h₂ (hfirst.start.trans hstart)
    ⟨hsecond.content.trans hfirst.content, hsecond.start.trans hfirst.start,
      hsecond.environment.trans hfirst.environment⟩
  fileWork hwork hstart :=
    Run.sparedAt_of_fileWork (fun p hp => FileTree.place_congr hstart p ▸ hw p hp) hwork
  wordDiff _ hr _ := sparedAt_of_toolSparesAt h hr

end Writer

namespace Engine

/-- The tool that is called when a comparison wants a word diff leaves the file at a location
alone. -/
def ToolSparesAt (e : Engine) (w : Writer) (test : Path) (request : Request) (loc : Location)
    (r : Run) : Prop :=
  e.callsTool request = true →
    w.ToolSparesAt (e.artifactPaths w test) (w.artifactDir test).ancestors
      (w.expectedPath test "" TextComparison.extension)
      (w.actualPath test "" TextComparison.extension) loc r

/-- **A comparison spares the files that it does not write.** -/
theorem sparedAt_of_compare (e : Engine) (w : Writer) (test : Path) (output : Bytes)
    (request : Request) {r : Run} {loc : Location}
    (hw : ∀ p ∈ e.writtenPaths w test request, r.files.place p ≠ loc)
    (hs : e.ToolSparesAt w test request loc r) :
    r.SparedAt loc (endOf (e.compare w test output request r)) := by
  cases hcalls : e.callsTool request with
  | false => exact Run.sparedAt_of_fileWork hw (e.compare_fileWork output hcalls r)
  | true =>
    cases e with
    | checksum => cases hcalls
    | text =>
      have hnew : request.newBaseline = false := by
        simp only [callsTool, Bool.and_eq_true, Bool.not_eq_true'] at hcalls
        exact hcalls.1
      rw [writtenPaths, hnew, if_neg Bool.false_ne_true] at hw
      exact TextComparison.compare_leads
        (Writer.workOrder_of_toolSparesAt hw (hs hcalls)) hnew (fun _ hp => hp) (fun _ hq => hq) rfl

end Engine

end Baseline
