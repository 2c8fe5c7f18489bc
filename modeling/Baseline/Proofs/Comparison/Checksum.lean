import Baseline.Comparison.Checksum
import Baseline.Proofs.Artifact.Writing

/-!
# Comparing checksums

A comparison finds the checksum (`actualChecksum`), compares it with the baselines
(`findings`) and keeps what a failing image is judged by (`keepImages`).  How it can
end well is said once, from the files that it finds (`compare_eq_ok`).

The first two parts only look; so an image that passes changes nothing
(`looks_of_compare`), one that fails changes the artifacts of the test at most
(`compare_fileWork`), and promoting changes its two baselines at most
(`promote_fileWork`).
-/

namespace Baseline.ChecksumComparison

open Action

/-! ### The parts of a comparison -/

theorem actualChecksum_looks (request : Request) : Leads Run.Looks (actualChecksum request) := by
  unfold actualChecksum
  split
  · exact Leads.pure Run.Looks.order _
  · exact Leads.bind Run.Looks.order (Run.read_looks _) fun _ => Leads.pure Run.Looks.order _
  · exact Leads.pure Run.Looks.order _

/-- **The checksum of an image**: the driver's, or else that of the file, or else none. -/
theorem actualChecksum_eq_ok {request : Request} {found : Option String} {r r' : Run} :
    actualChecksum request r = .ok found r' ↔ r' = r ∧
      ((∃ checksum, givenChecksum? request = some checksum ∧ found = some checksum) ∨
        givenChecksum? request = none ∧
          ((∃ image data, request.image = some image ∧ r.files.readFile image = .ok data ∧
            found = some (Sha256.hexDigest data)) ∨ request.image = none ∧ found = none)) := by
  unfold actualChecksum
  cases hgiven : givenChecksum? request with
  | some checksum => simp [eq_comm, and_comm]
  | none =>
    cases himage : request.image with
    | none => simp [eq_comm, and_comm]
    | some image =>
      constructor
      · intro h
        obtain ⟨data, m, hread, hfound⟩ := bind_eq_ok.mp h
        obtain ⟨hdata, rfl⟩ := Run.read_eq_ok.mp hread
        obtain ⟨rfl, rfl⟩ : some (Sha256.hexDigest data) = found ∧ m = r' := by simpa using hfound
        exact ⟨rfl, Or.inr ⟨rfl, Or.inl ⟨image, data, rfl, hdata, rfl⟩⟩⟩
      · rintro ⟨rfl, ⟨_, ⟨⟩, -⟩ | ⟨-, ⟨_, data, ⟨⟩, hdata, rfl⟩ | ⟨⟨⟩, -⟩⟩⟩
        exact bind_eq_ok.mpr ⟨data, r', Run.read_eq_ok.mpr ⟨hdata, rfl⟩, rfl⟩

/-- The checksum comes from the driver, or from an image that can be read. -/
theorem run_of_actualChecksum {request : Request} {found : Option String} {r m : Run}
    (h : actualChecksum request r = .ok found m) :
    m = r ∧ (givenChecksum? request = found ∨
      givenChecksum? request = none ∧ ∀ image, request.image = some image →
        ∃ data, r.files.readFile image = .ok data) := by
  obtain ⟨rfl, ⟨_, hgiven, rfl⟩ | ⟨hgiven, ⟨_, data, himage, hdata, -⟩ | ⟨-, rfl⟩⟩⟩ :=
    actualChecksum_eq_ok.mp h
  · exact ⟨rfl, Or.inl hgiven⟩
  · exact ⟨rfl, Or.inr ⟨hgiven, fun _ he => ⟨data, Option.some.inj (himage.symm.trans he) ▸ hdata⟩⟩⟩
  · exact ⟨rfl, Or.inl hgiven⟩

/-- What an image is found to be against its baselines: the checksum on record, where the image
baseline is, and what is wrong. -/
def findings (w : Writer) (test : Path) (request : Request) (actual : String) :
    Action (String × Path × Option Failure) := do
  let files := (← get).files
  let checksumPath := w.expectedBaseline files test extension
  let imagePath := w.expectedBaseline files test imageExtension
  if request.showSources then Run.report (.expectedImage test checksumPath imagePath)
  let expected := recordedChecksum (← Run.readIfThere checksumPath)
  return (expected, imagePath, failure? (files.isFile imagePath) expected actual)

/-- The run after the baselines were looked up: they are reported when that is asked for. -/
def afterLookUp (w : Writer) (test : Path) (showSources : Bool) (r : Run) : Run :=
  r.reported showSources (.expectedImage test (w.expectedBaseline r.files test extension)
    (w.expectedBaseline r.files test imageExtension))

/-- What is wrong with an image when its checksum baseline holds `data`. -/
def wrong? (w : Writer) (test : Path) (t : FileTree) (actual : String) (data : Bytes) :
    Option Failure :=
  failure? (t.isFile (w.expectedBaseline t test imageExtension)) (recordedChecksum data) actual

/-- What an image is found to be then. -/
def judged (w : Writer) (test : Path) (t : FileTree) (actual : String) (data : Bytes) :
    String × Path × Option Failure :=
  (recordedChecksum data, w.expectedBaseline t test imageExtension, wrong? w test t actual data)

theorem failure?_eq_none {imageIsThere : Bool} {expected actual : String} :
    failure? imageIsThere expected actual = none ↔
      imageIsThere = true ∧ expected ≠ "" ∧ expected = actual := by
  unfold failure?
  cases imageIsThere with
  | false => simp
  | true =>
    by_cases he : expected = ""
    · simp [he]
    · simp [he]

/-- What is wrong with an image that has a checksum is never that it has none. -/
theorem failure?_ne_missingActualChecksum {imageIsThere : Bool} {expected actual : String} :
    failure? imageIsThere expected actual ≠ some .missingActualChecksum := by
  unfold failure?
  split
  · simp
  · split
    · simp
    · split <;> simp

/-- **What is found** comes from the files alone. -/
theorem findings_eq_ok {w : Writer} {test : Path} {request : Request} {actual : String}
    {found : String × Path × Option Failure} {r r' : Run} :
    findings w test request actual r = .ok found r' ↔
      (∃ data, r.files.CountsAs (w.expectedBaseline r.files test extension) data ∧
        found = judged w test r.files actual data) ∧
      r' = afterLookUp w test request.showSources r := by
  unfold findings
  rw [bind_of_ok (get_apply r), Run.report_if_apply, bind_eq_ok]
  constructor
  · rintro ⟨data, _, hdata, hfound⟩
    obtain ⟨hcounts, rfl⟩ := Run.readIfThere_eq_ok.mp hdata
    rw [pure_apply, EStateM.Result.ok.injEq] at hfound
    exact ⟨⟨data, hcounts, hfound.1.symm⟩, hfound.2.symm⟩
  · rintro ⟨⟨data, hcounts, rfl⟩, rfl⟩
    exact ⟨data, _, Run.readIfThere_eq_ok.mpr ⟨hcounts, rfl⟩, rfl⟩

/-- A checksum baseline that can neither be read nor is missing. -/
theorem findings_of_unreadable {w : Writer} {test : Path} {request : Request} {actual : String}
    {fault : Fault} {r : Run}
    (hread : r.files.readFile (w.expectedBaseline r.files test extension) = .error fault)
    (hkind : fault.kind ≠ .notFound) :
    findings w test request actual r =
      .error (.file (w.expectedBaseline r.files test extension) fault)
        (afterLookUp w test request.showSources r) := by
  unfold findings
  rw [bind_of_ok (get_apply r), Run.report_if_apply]
  exact bind_of_error (Run.readIfThere_eq_error.mpr ⟨fault, hread, hkind, rfl, rfl⟩)

/-- Keep what an image that fails is judged by. -/
def keepImages (w : Writer) (test : Path) (image : Option Path) (actual expected : String)
    (baseline : Path) : Action Unit := do
  let _ ← w.writeResults test "" extension (some (Utf8.encode actual))
    (some (Utf8.encode expected)) .none
  copyImages w test image baseline

/-! ### The two ways of a comparison -/

variable {w : Writer} {test : Path} {request : Request}

theorem compare_of_promoting (h : request.newBaseline = true) :
    compare w test request = (do
      match ← actualChecksum request with
      | none => return [.missingActualChecksum]
      | some actual =>
        saveBaselines w test actual request
        return []) := by
  refine congrArg (actualChecksum request >>= ·) (funext fun found => ?_)
  cases found with
  | none => rfl
  | some actual => exact if_pos h

theorem compare_of_comparing (h : request.newBaseline = false) :
    compare w test request = (do
      match ← actualChecksum request with
      | none => return [.missingActualChecksum]
      | some actual =>
        let (expected, baseline, failure?) ← findings w test request actual
        match failure? with
        | none => return []
        | some failure =>
          keepImages w test request.image actual expected baseline
          return [failure]) := by
  refine congrArg (actualChecksum request >>= ·) (funext fun found => ?_)
  cases found with
  | none => rfl
  | some actual =>
    refine (if_neg (by simp [h])).trans ?_
    unfold findings keepImages
    simp only [bind_assoc]
    refine congrArg (get >>= ·) (funext fun r => ?_)
    split <;> simp only [bind_assoc, pure_bind] <;> rfl

/-- **How a comparison ends well**: without a checksum, with nothing wrong, or with what is wrong
once the images are kept. -/
theorem compare_eq_ok (h : request.newBaseline = false) {verdict : Verdict} {r r' : Run} :
    compare w test request r = .ok verdict r' ↔
      actualChecksum request r = .ok none r ∧ verdict = [.missingActualChecksum] ∧ r' = r ∨
      ∃ actual data, actualChecksum request r = .ok (some actual) r ∧
        r.files.CountsAs (w.expectedBaseline r.files test extension) data ∧
        (wrong? w test r.files actual data = none ∧ verdict = [] ∧
            r' = afterLookUp w test request.showSources r ∨
          ∃ failure, wrong? w test r.files actual data = some failure ∧ verdict = [failure] ∧
            keepImages w test request.image actual (recordedChecksum data)
              (w.expectedBaseline r.files test imageExtension)
              (afterLookUp w test request.showSources r) = .ok () r') := by
  rw [compare_of_comparing h]
  constructor
  · intro hr
    obtain ⟨found, m, hfound, hr⟩ := bind_eq_ok.mp hr
    obtain ⟨rfl, -⟩ := run_of_actualChecksum hfound
    cases found with
    | none =>
      obtain ⟨rfl, rfl⟩ : [Failure.missingActualChecksum] = verdict ∧ m = r' := by simpa using hr
      exact Or.inl ⟨hfound, rfl, rfl⟩
    | some actual =>
      obtain ⟨judgement, m₁, hfindings, hr⟩ := bind_eq_ok.mp hr
      obtain ⟨⟨data, hcounts, rfl⟩, rfl⟩ := findings_eq_ok.mp hfindings
      refine Or.inr ⟨actual, data, hfound, hcounts, ?_⟩
      cases hwrong : wrong? w test m.files actual data with
      | none =>
        simp only [judged, hwrong, pure_apply, EStateM.Result.ok.injEq] at hr
        exact Or.inl ⟨rfl, hr.1.symm, hr.2.symm⟩
      | some failure =>
        simp only [judged, hwrong] at hr
        obtain ⟨⟨⟩, m₂, hkeep, hdone⟩ := bind_eq_ok.mp hr
        obtain ⟨rfl, rfl⟩ : [failure] = verdict ∧ m₂ = r' := by simpa using hdone
        exact Or.inr ⟨failure, rfl, rfl, hkeep⟩
  · rintro (⟨hfound, rfl, rfl⟩ | ⟨actual, data, hfound, hcounts, hrest⟩)
    · rw [bind_of_ok hfound]
      rfl
    · rw [bind_of_ok hfound]
      dsimp only
      rw [bind_of_ok (findings_eq_ok.mpr ⟨⟨data, hcounts, rfl⟩, rfl⟩)]
      obtain ⟨hwrong, rfl, rfl⟩ | ⟨failure, hwrong, rfl, hkeep⟩ := hrest
      · simp only [judged, hwrong]
        rfl
      · simp only [judged, hwrong]
        rw [bind_of_ok hkeep]
        rfl

/-! ### What changes -/

variable {writes dirs : List Path}

theorem saveBaselines_fileWork (w : Writer) (test : Path) (checksum : String) (request : Request)
    (hw : ∀ suffix ∈ [extension, imageExtension],
      w.baselinePath test suffix ∈ writes)
    (hd : ∀ q ∈ (w.baselineDir test).ancestors, q ∈ dirs) :
    Leads (Run.FileWork writes dirs) (saveBaselines w test checksum request) := by
  have horder := Run.FileWork.order writes dirs
  refine Leads.bind horder (w.saveBaseline_fileWork test _ extension (hw _ (by simp)) hd)
    fun _ => ?_
  split
  · refine Leads.bind horder (Run.leads_fileWork (Run.read_looks _)) fun data => ?_
    exact Leads.bind horder (w.saveBaseline_fileWork test data imageExtension (hw _ (by simp)) hd)
      fun _ => Leads.pure horder ()
  · exact Leads.pure horder ()

theorem copyImages_fileWork (w : Writer) (test : Path) (image : Option Path) (baseline : Path)
    (ha : w.actualPath test "" imageExtension ∈ writes)
    (he : w.expectedPath test "" imageExtension ∈ writes) :
    Leads (Run.FileWork writes dirs) (copyImages w test image baseline) := by
  have horder := Run.FileWork.order writes dirs
  refine Leads.bind horder (Leads.get horder) fun r => ?_
  have hbaseline : Leads (Run.FileWork writes dirs)
      (if r.files.isFile baseline then Run.copy baseline (w.expectedPath test "" imageExtension)
        else pure ()) :=
    Leads.ite (fun _ => Run.copy_fileWork baseline he) fun _ => Leads.pure horder ()
  cases image with
  | some source => exact Leads.bind horder (Run.copy_fileWork source ha) fun _ => hbaseline
  | none => exact hbaseline

theorem findings_looks (w : Writer) (test : Path) (request : Request) (actual : String) :
    Leads Run.Looks (findings w test request actual) := by
  refine Leads.bind Run.Looks.order (Leads.get Run.Looks.order) fun r => ?_
  have hread : ∀ f : Bytes → String × Path × Option Failure, Leads Run.Looks (do
      return f (← Run.readIfThere (w.expectedBaseline r.files test extension))) := fun _ =>
    Leads.bind Run.Looks.order (Run.readIfThere_looks _) fun _ => Leads.pure Run.Looks.order _
  refine Leads.ite (fun _ => ?_) fun _ => hread _
  exact Leads.bind Run.Looks.order (Run.report_looks rfl) fun _ => hread _

theorem keepImages_fileWork (w : Writer) (test : Path) (image : Option Path)
    (actual expected : String) (baseline : Path)
    (hw : ∀ suffix ∈ [extension, imageExtension],
      w.actualPath test "" suffix ∈ writes ∧ w.expectedPath test "" suffix ∈ writes)
    (hd : ∀ q ∈ (w.artifactDir test).ancestors, q ∈ dirs) :
    Leads (Run.FileWork writes dirs) (keepImages w test image actual expected baseline) := by
  refine Leads.bind (Run.FileWork.order _ _) (w.writeResults_fileWork test "" extension
    (Writer.not_wantsWords rfl) (fun p hp => ?_) hd) fun _ => ?_
  · rcases Writer.mem_texts_of_no_lines hp with rfl | rfl
    · exact (hw extension (by simp)).1
    · exact (hw extension (by simp)).2
  · exact copyImages_fileWork w test image baseline (hw imageExtension (by simp)).1
      (hw imageExtension (by simp)).2

/-- **An image that passes, or whose checksum is not known, changes nothing.** -/
theorem looks_of_compare (h : request.newBaseline = false) {r r' : Run} {verdict : Verdict}
    (hr : compare w test request r = .ok verdict r')
    (hv : verdict = [] ∨ verdict = [.missingActualChecksum]) : r.Looks r' := by
  rcases (compare_eq_ok h).mp hr with
    ⟨-, -, rfl⟩ | ⟨actual, data, -, -, ⟨-, -, rfl⟩ | ⟨failure, hwrong, rfl, -⟩⟩
  · exact Run.Looks.order.refl r'
  · exact Run.reported_looks rfl request.showSources r
  · exfalso
    obtain rfl : failure = .missingActualChecksum := by simpa using hv
    exact failure?_ne_missingActualChecksum hwrong

theorem compare_fileWork (h : request.newBaseline = false)
    (hw : ∀ suffix ∈ [extension, imageExtension],
      w.actualPath test "" suffix ∈ writes ∧ w.expectedPath test "" suffix ∈ writes)
    (hd : ∀ q ∈ (w.artifactDir test).ancestors, q ∈ dirs) :
    Leads (Run.FileWork writes dirs) (compare w test request) := by
  have horder := Run.FileWork.order writes dirs
  rw [compare_of_comparing h]
  refine Leads.bind horder (Run.leads_fileWork (actualChecksum_looks request)) fun found => ?_
  cases found with
  | none => exact Leads.pure horder _
  | some actual =>
    refine Leads.bind horder (Run.leads_fileWork (findings_looks w test request actual))
      fun found => ?_
    obtain ⟨expected, baseline, wrong⟩ := found
    cases wrong with
    | none => exact Leads.pure horder _
    | some failure =>
      exact Leads.bind horder (keepImages_fileWork w test request.image actual expected baseline
        hw hd) fun _ => Leads.pure horder _

theorem promote_fileWork (h : request.newBaseline = true)
    (hw : ∀ suffix ∈ [extension, imageExtension],
      w.baselinePath test suffix ∈ writes)
    (hd : ∀ q ∈ (w.baselineDir test).ancestors, q ∈ dirs) :
    Leads (Run.FileWork writes dirs) (compare w test request) := by
  have horder := Run.FileWork.order writes dirs
  rw [compare_of_promoting h]
  refine Leads.bind horder (Run.leads_fileWork (actualChecksum_looks request)) fun found => ?_
  cases found with
  | none => exact Leads.pure horder _
  | some actual =>
    exact Leads.bind horder (saveBaselines_fileWork w test actual request hw hd)
      fun _ => Leads.pure horder _

end Baseline.ChecksumComparison
