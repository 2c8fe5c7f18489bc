import Baseline.Comparison.Text
import Baseline.Proofs.Artifact.Writing

/-!
# Comparing texts

How a comparison of texts can end well is said once, from the baseline that it
finds (`compare_eq_ok`).

What comes before a verdict only looks (`expectedText_looks`).  A text that
passes changes nothing (`looks_of_compare`), one that fails changes the artifacts
of the test at most (`compare_leads`), and promoting changes its baseline at most
(`promote_fileWork`).
-/

namespace Baseline.TextComparison

open Action

theorem expectedText_looks (w : Writer) (test : Path) (showSources : Bool) :
    Leads Run.Looks (expectedText w test showSources) := by
  refine Leads.bind Run.Looks.order (Leads.get Run.Looks.order) fun r => ?_
  refine Leads.ite (fun _ => ?_) fun _ => Run.readIfThere_looks _
  exact Leads.bind Run.Looks.order (Run.report_looks rfl) fun _ => Run.readIfThere_looks _

/-- The run after the baseline was looked up: it is reported when that is asked for. -/
def afterLookUp (w : Writer) (test : Path) (showSources : Bool) (r : Run) : Run :=
  r.reported showSources (.expectedText test (w.expectedBaseline r.files test extension))

theorem expectedText_eq_ok {w : Writer} {test : Path} {showSources : Bool} {expected : Bytes}
    {r r' : Run} :
    expectedText w test showSources r = .ok expected r' ↔
      r.files.CountsAs (w.expectedBaseline r.files test extension) expected ∧
        r' = afterLookUp w test showSources r := by
  unfold expectedText
  rw [bind_of_ok (get_apply r), Run.report_if_apply, Run.readIfThere_eq_ok]
  rfl

/-- A baseline that can neither be read nor is missing. -/
theorem expectedText_of_unreadable {w : Writer} {test : Path} {showSources : Bool} {fault : Fault}
    {r : Run} (hread : r.files.readFile (w.expectedBaseline r.files test extension) = .error fault)
    (hkind : fault.kind ≠ .notFound) :
    expectedText w test showSources r =
      .error (.file (w.expectedBaseline r.files test extension) fault)
        (afterLookUp w test showSources r) := by
  unfold expectedText
  rw [bind_of_ok (get_apply r), Run.report_if_apply]
  exact Run.readIfThere_eq_error.mpr ⟨fault, hread, hkind, rfl, rfl⟩

variable {w : Writer} {test : Path} {output : Bytes} {request : Request}

/-! ### The two ways of a comparison -/

theorem compare_of_promoting (h : request.newBaseline = true) :
    compare w test output request = (do
      let _ ← w.saveBaseline test output extension
      return []) := by
  unfold compare
  rw [if_pos h]

theorem compare_of_comparing (h : request.newBaseline = false) :
    compare w test output request = (do
      let expected ← expectedText w test request.showSources
      if expected = output then return []
      let _ ← w.writeResults test "" extension (some output) (some expected)
        (.standard request.wordDiff)
      return [failure expected request.wordDiff]) := by
  unfold compare
  rw [if_neg (by simp [h])]

/-- **How a comparison ends well**: with a pass, or with its failure once the results are
written. -/
theorem compare_eq_ok (h : request.newBaseline = false) {verdict : Verdict} {r r' : Run} :
    compare w test output request r = .ok verdict r' ↔ ∃ expected,
      r.files.CountsAs (w.expectedBaseline r.files test extension) expected ∧
      (expected = output ∧ verdict = [] ∧ r' = afterLookUp w test request.showSources r ∨
        expected ≠ output ∧ verdict = [failure expected request.wordDiff] ∧
          ∃ set, w.writeResults test "" extension (some output) (some expected)
            (.standard request.wordDiff) (afterLookUp w test request.showSources r) =
              .ok set r') := by
  rw [compare_of_comparing h, bind_eq_ok]
  constructor
  · rintro ⟨expected, m, hexpected, hr⟩
    obtain ⟨hcounts, rfl⟩ := expectedText_eq_ok.mp hexpected
    refine ⟨expected, hcounts, ?_⟩
    split at hr
    · rename_i heq
      simp only [pure_apply, EStateM.Result.ok.injEq] at hr
      exact Or.inl ⟨heq, hr.1.symm, hr.2.symm⟩
    · rename_i hne
      obtain ⟨set, m, hwrite, hdone⟩ := bind_eq_ok.mp hr
      simp only [pure_apply, EStateM.Result.ok.injEq] at hdone
      exact Or.inr ⟨hne, hdone.1.symm, set, hdone.2 ▸ hwrite⟩
  · rintro ⟨expected, hcounts, hrest⟩
    refine ⟨expected, _, expectedText_eq_ok.mpr ⟨hcounts, rfl⟩, ?_⟩
    obtain ⟨heq, rfl, rfl⟩ | ⟨hne, rfl, set, hwrite⟩ := hrest
    · rw [if_pos heq]
      rfl
    · rw [if_neg hne, bind_of_ok hwrite]
      rfl

/-! ### What changes -/

theorem failure_ne_missingActualChecksum (expected : Bytes) (wordDiff : Bool) :
    failure expected wordDiff ≠ .missingActualChecksum := by
  unfold failure
  split <;> simp

/-- **A text that passes changes nothing.** -/
theorem looks_of_compare (h : request.newBaseline = false) {r r' : Run} {verdict : Verdict}
    (hr : compare w test output request r = .ok verdict r')
    (hv : verdict = [] ∨ verdict = [.missingActualChecksum]) : r.Looks r' := by
  obtain ⟨expected, -, ⟨-, -, rfl⟩ | ⟨-, rfl, -⟩⟩ := (compare_eq_ok h).mp hr
  · exact Run.reported_looks rfl request.showSources r
  · exfalso
    exact failure_ne_missingActualChecksum expected request.wordDiff (by simpa using hv)

variable {writes dirs : List Path}

/-- **A text is compared along whatever its parts lead along.** -/
theorem compare_leads {R : Run → Run → Prop} {r : Run}
    (hR : w.WorkOrder writes dirs (w.expectedPath test "" extension)
      (w.actualPath test "" extension) r R)
    (h : request.newBaseline = false) (hw : ∀ p ∈ w.resultPaths test "" extension, p ∈ writes)
    (hd : ∀ q ∈ (w.artifactDir test).ancestors, q ∈ dirs) :
    R r (endOf (compare w test output request r)) := by
  have horder := hR.toRunOrder
  have hlooks : Leads (Run.FileWork writes dirs) (expectedText w test request.showSources) :=
    Run.leads_fileWork (expectedText_looks w test request.showSources)
  rw [compare_of_comparing h]
  refine endOf_bind horder (hR.leads hlooks r) fun expected r₁ hexpected => ?_
  split
  · exact horder.refl r₁
  · refine endOf_bind horder ?_ fun _ r₂ _ => horder.refl r₂
    exact Writer.writeResults_leads (hR.from (hlooks.of_ok hexpected)) _ _ _
      (fun p hp => hw p (Writer.mem_resultPaths_of_written hp)) hd

/-- Without a word diff a comparison is file work at its three texts. -/
theorem compare_fileWork (h : request.newBaseline = false) (hn : request.wordDiff = false)
    (hw : ∀ p ∈ w.textPaths test "" extension, p ∈ writes)
    (hd : ∀ q ∈ (w.artifactDir test).ancestors, q ∈ dirs) :
    Leads (Run.FileWork writes dirs) (compare w test output request) := by
  have horder := Run.FileWork.order writes dirs
  rw [compare_of_comparing h]
  refine Leads.bind horder (Run.leads_fileWork (expectedText_looks w test request.showSources))
    fun expected => Leads.ite (fun _ => Leads.pure horder _) fun _ => ?_
  refine Leads.bind horder (w.writeResults_fileWork test "" extension (Writer.not_wantsWords hn)
    (fun p hp => ?_) hd) fun _ => Leads.pure horder _
  exact hw p (Writer.mem_textPaths_of_texts hp)

/-- **Comparing a text changes nothing but its artifacts**, however it ends, if the tool that is
called for a word diff spares the files. -/
theorem changesOnly_of_compare (h : request.newBaseline = false) {r : Run}
    (hs : w.ToolSparesResults test "" extension request.wordDiff r) :
    r.files.ChangesOnly (w.resultPaths test "" extension) (w.artifactDir test).ancestors
      (endOf (compare w test output request r)).files := by
  cases hwords : request.wordDiff with
  | true =>
    exact compare_leads (Writer.workOrder_of_toolSpares (hs hwords)) h (fun _ hp => hp)
      fun _ hq => hq
  | false =>
    exact (compare_fileWork h hwords (fun _ hp => List.mem_append_left _ hp) (fun _ hq => hq)
      r).files

theorem promote_fileWork (h : request.newBaseline = true)
    (hw : w.baselinePath test extension ∈ writes)
    (hd : ∀ q ∈ (w.baselineDir test).ancestors, q ∈ dirs) :
    Leads (Run.FileWork writes dirs) (compare w test output request) := by
  rw [compare_of_promoting h]
  exact Leads.bind (Run.FileWork.order _ _) (w.saveBaseline_fileWork test output extension hw hd)
    fun _ => Leads.pure (Run.FileWork.order _ _) _

end Baseline.TextComparison
