import Baseline.Proofs.Comparison.Passing

/-!
# The images of a test that fails

An image that fails is copied beside the checksums, and its baseline too.  The
copies hold what the image and the baseline held before the comparison, as long
as these are not artifacts themselves (`imagesLeft_of_failure`).  But the image
may be where its copy goes, and so may the baseline when baselines are kept in the
output directory.  A file that is copied onto itself is emptied, so then it is
lost (`not_all_images_kept`).
-/

namespace Baseline.ChecksumComparison

open Action

variable {w : Writer} {test : Path} {request : Request} {r r' m : Run}

/-! ### What is done to the files -/

/-- The image baseline that a test is compared with. -/
def imageBaseline (w : Writer) (test : Path) (r : Run) : Path :=
  w.expectedBaseline r.files test imageExtension

/-- The paths of the two checksums. -/
def checksumPaths (w : Writer) (test : Path) : List Path :=
  [w.actualPath test "" extension, w.expectedPath test "" extension]

/-- Where the image goes. -/
def actualImagePath (w : Writer) (test : Path) : Path := w.actualPath test "" imageExtension

/-- Where the image baseline goes. -/
def expectedImagePath (w : Writer) (test : Path) : Path := w.expectedPath test "" imageExtension

/-- A copy that is made only when its source is there. -/
theorem files_of_copy_if {isThere : Bool} {source destination : Path}
    (h : (if isThere then Run.copy source destination else pure ()) m = .ok () r') :
    isThere = false ∧ r'.files = m.files ∨
      isThere = true ∧ m.files.copyFile source destination = .ok r'.files := by
  cases isThere with
  | false =>
    obtain rfl : m = r' := by simpa using h
    exact Or.inl ⟨rfl, rfl⟩
  | true =>
    obtain ⟨files, hcopy, rfl⟩ := Run.copy_eq_ok.mp h
    exact Or.inr ⟨rfl, hcopy⟩

/-- Both copies: the image when there is one, and then the baseline when it is a file. -/
theorem files_of_copyImages {image : Option Path} {baseline : Path}
    (h : copyImages w test image baseline m = .ok () r') : ∃ files : FileTree,
      (image = none ∧ files = m.files ∨ ∃ source, image = some source ∧
        m.files.copyFile source (actualImagePath w test) = .ok files) ∧
      (m.files.isFile baseline = false ∧ r'.files = files ∨ m.files.isFile baseline = true ∧
        files.copyFile baseline (expectedImagePath w test) = .ok r'.files) := by
  unfold copyImages at h
  rw [bind_of_ok (get_apply m)] at h
  cases image with
  | none => exact ⟨m.files, Or.inl ⟨rfl, rfl⟩, files_of_copy_if h⟩
  | some source =>
    obtain ⟨⟨⟩, m₁, hfirst, hrest⟩ := bind_eq_ok.mp h
    obtain ⟨files, hcopy, rfl⟩ := Run.copy_eq_ok.mp hfirst
    exact ⟨files, Or.inr ⟨source, rfl, hcopy⟩, files_of_copy_if hrest⟩

/-- **A failure** writes the checksums and then copies the images. -/
theorem copyImages_of_failure (h : request.newBaseline = false) {failure : Failure}
    (hr : compare w test request r = .ok [failure] r') (hf : failure ≠ .missingActualChecksum) :
    ∃ m, r.files.ChangesOnly (checksumPaths w test) (w.artifactDir test).ancestors m.files ∧
      copyImages w test request.image (imageBaseline w test r) m = .ok () r' := by
  rcases (compare_eq_ok h).mp hr with ⟨-, hverdict, -⟩ |
      ⟨actual, data, -, -, ⟨-, hverdict, -⟩ | ⟨failure', -, -, hkeep⟩⟩
  · exact absurd (List.cons.inj hverdict).1 hf
  · simp at hverdict
  · obtain ⟨set, m, hwrite, hcopy⟩ := bind_eq_ok.mp hkeep
    have hwork : Leads (Run.FileWork (checksumPaths w test) (w.artifactDir test).ancestors)
        (w.writeResults test "" extension (some (Utf8.encode actual))
          (some (Utf8.encode (recordedChecksum data))) .none) := by
      refine w.writeResults_fileWork test "" extension (Writer.not_wantsWords rfl) (fun p hp => ?_)
        fun _ hq => hq
      rcases Writer.mem_texts_of_no_lines hp with rfl | rfl <;> simp [checksumPaths]
    exact ⟨m, (hwork.of_ok hwrite).files, hcopy⟩

/-! ### Which places differ -/

/-- The two copies go to different places. -/
theorem place_actualImagePath_ne (w : Writer) (test : Path) (t : FileTree) :
    t.place (actualImagePath w test) ≠ t.place (expectedImagePath w test) :=
  w.place_artifactPath_ne test (by decide) (by decide) (by decide) t

/-- An image baseline is no artifact but the copy of a baseline. -/
theorem place_ne_imageBaseline (w : Writer) (test : Path) (r : Run) (t : FileTree) {p : Path}
    (hp : p ∈ actualImagePath w test :: checksumPaths w test) :
    t.place p ≠ t.place (imageBaseline w test r) := by
  simp only [checksumPaths, List.mem_cons, List.not_mem_nil, or_false] at hp
  rcases hp with rfl | rfl | rfl <;>
    exact w.place_artifactPath_ne_baseline r.files test (by decide) (by decide) (by decide)
      (by decide) t

/-! ### What the files hold in the end -/

/-- What a test's image and its image baseline come to when it fails. -/
structure ImagesLeft (w : Writer) (test : Path) (image : Option Path) (r r' : Run) : Prop where
  /-- The image is copied, unless it is one of the artifacts that are written before or is where
  the copy goes. -/
  actual_copy : ∀ source, image = some source →
    (∀ p ∈ actualImagePath w test :: checksumPaths w test,
      r.files.place p ≠ r.files.place source) →
    ∃ data, r.files.content? (r.files.place source) = some data ∧
      r'.files.readFile (actualImagePath w test) = .ok data
  /-- The image itself does not change, unless it is one of the artifacts. -/
  actual_kept : ∀ source, (∀ p ∈ Engine.checksum.artifactPaths w test,
      r.files.place p ≠ r.files.place source) →
    r'.files.content? (r.files.place source) = r.files.content? (r.files.place source)
  /-- An image that is where its copy goes is emptied. -/
  actual_emptied : ∀ source, image = some source →
    r.files.place source = r.files.place (actualImagePath w test) →
    r'.files.readFile (actualImagePath w test) = .ok []
  /-- The image baseline is copied and does not change, unless it is where the copy goes. -/
  expected_copy : ∀ data, r.files.readFile (imageBaseline w test r) = .ok data →
    r.files.place (imageBaseline w test r) ≠ r.files.place (expectedImagePath w test) →
    r'.files.readFile (expectedImagePath w test) = .ok data ∧
      r'.files.readFile (imageBaseline w test r) = .ok data
  /-- An image baseline that is where the copy goes is emptied. -/
  expected_emptied : r.files.isFile (imageBaseline w test r) = true →
    r.files.place (imageBaseline w test r) = r.files.place (expectedImagePath w test) →
    r'.files.readFile (imageBaseline w test r) = .ok []

variable {t t₁ t₂ t₃ : FileTree} {source : Path}

/-- What the copy of the image holds once the baseline is copied too. -/
theorem readFile_actualImagePath
    (hcopy : t₁.copyFile source (actualImagePath w test) = .ok t₂)
    (hc : t₂.ChangesOnly [expectedImagePath w test] [] t₃) :
    ∃ data, t₁.content? (t₁.place source) = some data ∧
      t₃.readFile (actualImagePath w test) =
        .ok (if t₁.place source = t₁.place (actualImagePath w test) then [] else data) := by
  obtain ⟨data, hdata, hread⟩ := FileTree.readFile_of_copyFile hcopy
  refine ⟨data, hdata, hc.readFile hread fun q hq => ?_⟩
  rw [List.mem_singleton.mp hq]
  exact (place_actualImagePath_ne w test t₂).symm

/-- The image baseline reads as before until it is copied. -/
theorem readFile_imageBaseline {data : Bytes} {dirs : List Path}
    (h₁ : r.files.ChangesOnly (checksumPaths w test) dirs t₁)
    (h₂ : t₁.ChangesOnly [actualImagePath w test] [] t₂)
    (hdata : r.files.readFile (imageBaseline w test r) = .ok data) :
    t₂.readFile (imageBaseline w test r) = .ok data := by
  have hread : t₁.readFile (imageBaseline w test r) = .ok data :=
    h₁.readFile hdata fun q hq => place_ne_imageBaseline w test r _ (List.mem_cons_of_mem _ hq)
  refine h₂.readFile hread fun q hq => ?_
  rw [List.mem_singleton.mp hq]
  exact place_ne_imageBaseline w test r t₁ (List.mem_cons_self ..)

/-- **The images of a test that fails**: copies of what there was before, except that a file which
is where its copy goes is emptied. -/
theorem imagesLeft_of_failure (h : request.newBaseline = false) {failure : Failure}
    (hr : compare w test request r = .ok [failure] r') (hf : failure ≠ .missingActualChecksum) :
    ImagesLeft w test request.image r r' := by
  obtain ⟨m, h₁, hcopies⟩ := copyImages_of_failure h hr hf
  obtain ⟨t₂, hactual, hexpected⟩ := files_of_copyImages hcopies
  have h₂ : m.files.ChangesOnly [actualImagePath w test] [] t₂ := by
    rcases hactual with ⟨-, rfl⟩ | ⟨source, -, hcopy⟩
    · exact .refl _ _ _
    · exact .of_copyFile hcopy
  have h₃ : t₂.ChangesOnly [expectedImagePath w test] [] r'.files := by
    rcases hexpected with ⟨-, hsame⟩ | ⟨-, hcopy⟩
    · rw [hsame]
      exact .refl _ _ _
    · exact .of_copyFile hcopy
  have hcopied : ∀ source, request.image = some source →
      m.files.copyFile source (actualImagePath w test) = .ok t₂ := by
    intro source hsource
    obtain ⟨hnone, -⟩ | ⟨source', hsource', hcopy⟩ := hactual
    · simp [hnone] at hsource
    · rwa [Option.some.inj (hsource.symm.trans hsource')]
  -- a baseline that was there before is still there when the copies are made
  have hbaseline : ∀ data, r.files.readFile (imageBaseline w test r) = .ok data →
      t₂.readFile (imageBaseline w test r) = .ok data ∧
        t₂.copyFile (imageBaseline w test r) (expectedImagePath w test) = .ok r'.files := by
    intro data hdata
    have hthere := h₁.isFile (FileTree.isFile_of_readFile hdata)
    obtain ⟨hmissing, -⟩ | ⟨-, hcopy⟩ := hexpected
    · simp [hthere] at hmissing
    · exact ⟨readFile_imageBaseline h₁ h₂ hdata, hcopy⟩
  refine
    { actual_copy := fun source hsource hplace => ?_
      actual_kept := fun source hplace => ?_
      actual_emptied := fun source hsource hplace => ?_
      expected_copy := fun data hdata hplace => ?_
      expected_emptied := fun hthere hplace => ?_ }
  · obtain ⟨data, hdata, hread⟩ := readFile_actualImagePath (hcopied source hsource) h₃
    have hne := hplace _ (List.mem_cons_self ..)
    rw [h₁.place, h₁.place, if_neg hne.symm] at hread
    rw [h₁.place, h₁.content? fun p hp => hplace p (List.mem_cons_of_mem _ hp)] at hdata
    exact ⟨data, hdata, hread⟩
  · have hartifact := Engine.mem_artifactPaths_checksum w test
    rw [h₃.content?, h₂.content?, h₁.content?]
    · intro p hp
      simp only [checksumPaths, List.mem_cons, List.not_mem_nil, or_false] at hp
      rcases hp with rfl | rfl
      · exact hplace _ (hartifact extension (by simp)).1
      · exact hplace _ (hartifact extension (by simp)).2
    · intro p hp
      rw [List.mem_singleton.mp hp, h₁.place]
      exact hplace _ (hartifact imageExtension (by simp)).1
    · intro p hp
      rw [List.mem_singleton.mp hp, h₂.place, h₁.place]
      exact hplace _ (hartifact imageExtension (by simp)).2
  · obtain ⟨data, -, hread⟩ := readFile_actualImagePath (hcopied source hsource) h₃
    rwa [h₁.place, h₁.place, if_pos hplace] at hread
  · obtain ⟨hread, hcopy⟩ := hbaseline data hdata
    have hboth := FileTree.readFile_both_of_copyFile hcopy hread
    rwa [h₂.place, h₂.place, h₁.place, h₁.place, if_neg hplace] at hboth
  · obtain ⟨data, hdata⟩ := FileTree.isFile_iff.mp hthere
    obtain ⟨hread, hcopy⟩ := hbaseline data hdata
    have hleft := (FileTree.readFile_both_of_copyFile hcopy hread).2
    rwa [h₂.place, h₂.place, h₁.place, h₁.place, if_pos hplace] at hleft

/-- The comparison of an image that is there with its baselines. -/
def judging (image : String) : Action Verdict :=
  compare ⟨"linux", .ofString "out", .ofDirectory (.ofString "tests")⟩ (.ofString "tests/a.html")
    ⟨false, some (.ofString image), some "cd", false, false⟩

/-- A run that starts with the two baselines of the image, and an image in the output directory and
one beside it. -/
def withImages : Run :=
  .begin (((Engine.withBaselines.files.setFile [] (Utf8.encode "a.png") [2] false).addDirectory []
    (Utf8.encode "out")).setFile [Utf8.encode "out"] (Utf8.encode "a-actual.png") [3] false) .empty
    (.scripted [] [])

/-- An image beside the output directory that fails: its baseline is copied and kept. -/
theorem imagesLeft_of_first_failure :
    ∃ r', judging "a.png" withImages = .ok [.checksumMismatch "ab" "cd"] r' ∧
      r'.files.readFile (.ofString "out/a-expected.png") = .ok [1] ∧
      r'.files.readFile (.ofString "tests/a-expected.png") = .ok [1] := by
  obtain ⟨r', hr⟩ : ∃ r', judging "a.png" withImages = .ok [.checksumMismatch "ab" "cd"] r' :=
    exists_of_answer? (by decide +kernel)
  have hleft := imagesLeft_of_failure rfl hr (by decide)
  exact ⟨r', hr, hleft.expected_copy [1] rfl (by decide +kernel)⟩

/-- **Not every image is kept**: one that is where its copy goes is empty afterwards. -/
theorem not_all_images_kept :
    ¬ ∀ (w : Writer) (test : Path) (request : Request) (r r' : Run) (failure : Failure)
      (image : Path) (data : Bytes), request.newBaseline = false →
      compare w test request r = .ok [failure] r' → failure ≠ .missingActualChecksum →
      request.image = some image → r.files.readFile image = .ok data →
        r'.files.readFile (actualImagePath w test) = .ok data ∧
          r'.files.readFile image = .ok data := by
  intro h
  obtain ⟨r', hr⟩ : ∃ r', judging "out/a-actual.png" withImages =
      .ok [.checksumMismatch "ab" "cd"] r' := exists_of_answer? (by decide +kernel)
  have hread := (h _ _ _ _ _ _ _ [3] rfl hr (by decide) rfl rfl).2
  have hcontent := FileTree.content?_of_readFile hread
  rw [← endOf_ok hr] at hcontent
  revert hcontent
  decide +kernel

end Baseline.ChecksumComparison
