import Baseline.Proofs.Comparison.Passing
import Baseline.Proofs.Comparison.Promotion
import Baseline.Proofs.Text.Decoding
import Baseline.Proofs.Text.Trim

/-!
# Comparing after a promotion

A promotion saves the checksum of an image, and the image when there is one.
Compared again, the same test has the same checksum (`actualChecksum_of_promotion`)
and the one in its baseline reads as that.  So all depends on the image baseline:
the test passes when an image was promoted or an image baseline was there before,
and else that baseline is still missing (`verdict_of_rerun`).  Promoting a checksum
alone is therefore not enough for a pass (`not_all_reruns_pass`).

The image may be any file but the checksum baseline, which the promotion replaces
before it reads the image.
-/

namespace Baseline.ChecksumComparison

open Action

variable {w : Writer} {test : Path} {request : Request} {checksum : String} {r r' s : Run}

/-! ### What a promotion leaves -/

/-- Saving both, step by step: the checksum, and then the image when there is one. -/
theorem saveBaselines_eq_ok : saveBaselines w test checksum request r = .ok () r' ↔
    ∃ path m, w.saveBaseline test (Utf8.encode checksum) extension r = .ok path m ∧
      (request.image = none ∧ r' = m ∨
        ∃ image data path', request.image = some image ∧ m.files.readFile image = .ok data ∧
          w.saveBaseline test data imageExtension m = .ok path' r') := by
  show (w.saveBaseline test (Utf8.encode checksum) extension >>= _) r = _ ↔ _
  rw [bind_eq_ok]
  refine exists_congr fun path => exists_congr fun m => and_congr_right fun _ => ?_
  cases himage : request.image with
  | none => simp [eq_comm]
  | some image =>
    constructor
    · intro h
      obtain ⟨data, m', hread, hrest⟩ := bind_eq_ok.mp h
      obtain ⟨hdata, rfl⟩ := Run.read_eq_ok.mp hread
      obtain ⟨path', m₂, hsave, hdone⟩ := bind_eq_ok.mp hrest
      obtain rfl : m₂ = r' := by simpa using hdone
      exact Or.inr ⟨image, data, path', rfl, hdata, hsave⟩
    · rintro (⟨⟨⟩, -⟩ | ⟨_, data, path', ⟨⟩, hdata, hsave⟩)
      exact bind_eq_ok.mpr ⟨data, m, Run.read_eq_ok.mpr ⟨hdata, rfl⟩,
        bind_eq_ok.mpr ⟨path', r', hsave, rfl⟩⟩

/-- The checksum is in its baseline, also after the image was saved. -/
theorem readFile_of_saveBaselines (h : saveBaselines w test checksum request r = .ok () r') :
    r'.files.readFile (w.baselinePath test extension) = .ok (Utf8.encode checksum) := by
  obtain ⟨path, m, hsave, ⟨-, rfl⟩ | ⟨image, data, path', -, -, hsecond⟩⟩ :=
    saveBaselines_eq_ok.mp h
  · exact Writer.readFile_of_saveBaseline hsave
  · refine (Writer.changesOnly_of_saveBaseline hsecond).readFile (Writer.readFile_of_saveBaseline hsave)
      fun q hq => ?_
    rw [List.mem_singleton.mp hq]
    exact (place_checksum_ne_image w test m.files).symm

/-- An image that was promoted is in its baseline. -/
theorem isFile_of_saveBaselines (h : saveBaselines w test checksum request r = .ok () r')
    (himage : request.image.isSome = true) :
    r'.files.isFile (w.expectedBaseline r'.files test imageExtension) = true := by
  obtain ⟨path, m, -, ⟨hnone, -⟩ | ⟨image, data, path', -, -, hsecond⟩⟩ := saveBaselines_eq_ok.mp h
  · simp [hnone] at himage
  · have hread := Writer.readFile_of_saveBaseline hsecond
    rw [Writer.expectedBaseline_of_readFile hread]
    exact FileTree.isFile_of_readFile hread

/-- The image itself reads as before, even when it is its own baseline. -/
theorem readFile_image_of_saveBaselines {image : Path} {data : Bytes}
    (h : saveBaselines w test checksum request r = .ok () r') (himage : request.image = some image)
    (hdata : r.files.readFile image = .ok data)
    (hplace : r.files.place image ≠ r.files.place (w.baselinePath test extension)) :
    r'.files.readFile image = .ok data := by
  obtain ⟨path, m, hsave, ⟨hnone, -⟩ | ⟨image', data', path', hsome, hdata', hsecond⟩⟩ :=
    saveBaselines_eq_ok.mp h
  · simp [hnone] at himage
  obtain rfl : image = image' := Option.some.inj (himage.symm.trans hsome)
  have hm : m.files.readFile image = .ok data := by
    refine (Writer.changesOnly_of_saveBaseline hsave).readFile hdata fun q hq => ?_
    rw [List.mem_singleton.mp hq]
    exact hplace.symm
  obtain rfl : data = data' := Except.ok.inj (hm.symm.trans hdata')
  have hc := Writer.changesOnly_of_saveBaseline hsecond
  by_cases hsame : m.files.place image = m.files.place (w.baselinePath test imageExtension)
  · -- the image is its own baseline, and what was written there is what it held
    obtain ⟨data', hread⟩ := hc.exists_readFile hm
    have hcontent := Writer.content?_of_saveBaseline hsecond
    rw [hread, FileTree.eq_of_place_eq hread hcontent (by rw [hc.place, hc.place, hsame])]
  · refine hc.readFile hm fun q hq => ?_
    rw [List.mem_singleton.mp hq]
    exact Ne.symm hsame

/-! ### The same checksum -/

theorem recordedChecksum_encode (s : String) : recordedChecksum (Utf8.encode s) = Text.trim s := by
  rw [recordedChecksum, Utf8.decodeLossy_encode]

theorem trim_of_givenChecksum? (h : givenChecksum? request = some checksum) :
    Text.trim checksum = checksum ∧ checksum ≠ "" := by
  obtain ⟨hmap, hne⟩ := Option.filter_eq_some_iff.mp h
  obtain ⟨given, -, rfl⟩ := Option.map_eq_some_iff.mp hmap
  exact ⟨Text.trim_trim given, by simpa using hne⟩

/-- A checksum has no blanks around it, and it is not empty. -/
theorem trim_of_actualChecksum (h : actualChecksum request r = .ok (some checksum) r') :
    Text.trim checksum = checksum ∧ checksum ≠ "" := by
  obtain ⟨-, ⟨_, hgiven, ⟨⟩⟩ | ⟨-, ⟨_, data, -, -, ⟨⟩⟩ | ⟨-, ⟨⟩⟩⟩⟩ := actualChecksum_eq_ok.mp h
  · exact trim_of_givenChecksum? hgiven
  · exact ⟨Sha256.trim_hexDigest data, Sha256.hexDigest_ne_empty data⟩

/-- The image of a test is not its checksum baseline, or the checksum does not come from it. -/
def KeepsChecksum (w : Writer) (test : Path) (request : Request) (t : FileTree) : Prop :=
  (givenChecksum? request).isSome = true ∨ ∀ image, request.image = some image →
    t.place image ≠ t.place (w.baselinePath test extension)

/-- **The checksum of a test is the same** after it was promoted. -/
theorem actualChecksum_of_promotion (hkeeps : KeepsChecksum w test request r.files)
    (hactual : actualChecksum request r = .ok (some checksum) r)
    (hsave : saveBaselines w test checksum request r = .ok () r') (hs : s.files = r'.files) :
    actualChecksum request s = .ok (some checksum) s := by
  refine actualChecksum_eq_ok.mpr ⟨rfl, ?_⟩
  obtain ⟨-, hgiven | ⟨hgiven, ⟨image, data, himage, hdata, hfound⟩ | ⟨-, ⟨⟩⟩⟩⟩ :=
    actualChecksum_eq_ok.mp hactual
  · exact Or.inl hgiven
  · have hplace := hkeeps.resolve_left (by simp [hgiven]) image himage
    have hread := readFile_image_of_saveBaselines hsave himage hdata hplace
    exact Or.inr ⟨hgiven, Or.inl ⟨image, data, himage, hs ▸ hread, hfound⟩⟩

/-! ### Comparing again -/

/-- Without an image baseline, an image that has a checksum is told so. -/
theorem eq_missingImage_of_compare (h : request.newBaseline = false)
    (hactual : actualChecksum request r = .ok (some checksum) r)
    (hmissing : r.files.isFile (w.expectedBaseline r.files test imageExtension) = false)
    {verdict : Verdict} (hr : compare w test request r = .ok verdict r') :
    verdict = [.missingImage] := by
  have hwrong : ∀ actual data, wrong? w test r.files actual data = some .missingImage := by
    intro actual data
    rw [wrong?, hmissing]
    rfl
  rcases (compare_eq_ok h).mp hr with
    ⟨hnone, -, -⟩ | ⟨actual, data, -, -, ⟨hright, -, -⟩ | ⟨failure, hfailure, rfl, -⟩⟩
  · simp [hactual] at hnone
  · simp [hwrong] at hright
  · rw [Option.some.inj (hfailure.symm.trans (hwrong actual data))]

theorem saveBaselines_of_promoting (h : request.newBaseline = true)
    (hr : compare w test request r = .ok [] r') : ∃ checksum,
      actualChecksum request r = .ok (some checksum) r ∧
        saveBaselines w test checksum request r = .ok () r' := by
  rw [compare_of_promoting h] at hr
  obtain ⟨found, m, hfound, hrest⟩ := bind_eq_ok.mp hr
  obtain ⟨rfl, -⟩ := run_of_actualChecksum hfound
  cases found with
  | none => simp at hrest
  | some checksum =>
    obtain ⟨⟨⟩, m', hsave, hdone⟩ := bind_eq_ok.mp hrest
    obtain rfl : m' = r' := by simpa using hdone
    exact ⟨checksum, hfound, hsave⟩

/-- **After a promotion the test passes**, provided that an image was promoted or an image baseline
is there; else it is the image baseline that is missing. -/
theorem verdict_of_rerun (h : request.newBaseline = true)
    (hr : compare w test request r = .ok [] r')
    (hkeeps : KeepsChecksum w test request r.files) (hs : s.files = r'.files) :
    (request.image.isSome = true ∨
        s.files.isFile (w.expectedBaseline s.files test imageExtension) = true →
      ∃ s', compare w test { request with newBaseline := false } s = .ok [] s') ∧
    (¬ (request.image.isSome = true ∨
        s.files.isFile (w.expectedBaseline s.files test imageExtension) = true) →
      ∀ verdict s', compare w test { request with newBaseline := false } s = .ok verdict s' →
        verdict = [.missingImage]) := by
  obtain ⟨checksum, hactual, hsave⟩ := saveBaselines_of_promoting h hr
  have hagain : actualChecksum { request with newBaseline := false } s = .ok (some checksum) s :=
    actualChecksum_of_promotion hkeeps hactual hsave hs
  obtain ⟨htrim, hne⟩ := trim_of_actualChecksum hactual
  refine ⟨fun hthere => ?_, fun hmissing verdict s' hcompare => ?_⟩
  · have hread : s.files.readFile (w.expectedBaseline s.files test extension) =
        .ok (Utf8.encode checksum) := by
      have hread := readFile_of_saveBaselines hsave
      rw [hs, Writer.expectedBaseline_of_readFile hread, hread]
    have himage : s.files.isFile (w.expectedBaseline s.files test imageExtension) = true := by
      rcases hthere with hgiven | hthere
      · rw [hs]
        exact isFile_of_saveBaselines hsave hgiven
      · exact hthere
    exact (exists_pass_iff rfl).mpr ⟨checksum, _, hagain, hne, hread,
      (recordedChecksum_encode checksum).trans htrim, himage⟩
  · have hfile := Bool.eq_false_iff.mpr (not_or.mp hmissing).2
    exact eq_missingImage_of_compare rfl hagain hfile hcompare

/-- A checksum and an image, promoted and then compared. -/
theorem verdict_of_first_rerun :
    ∃ s', compare ⟨"linux", .ofString "out", .ofDirectory (.ofString "tests")⟩
      (.ofString "tests/a.html") ⟨false, some (.ofString "a.png"), some "h0", false, false⟩
      promotedOnce = .ok [] s' := by
  obtain ⟨r', hr⟩ : ∃ r', promotion "h0" "a.png" (.begin
      (FileTree.empty.setFile [] (Utf8.encode "a.png") [1] false) .empty (.scripted [] [])) =
        .ok [] r' := exists_of_answer? (by decide +kernel)
  have hs : promotedOnce.files = r'.files := congrArg Run.files (endOf_ok hr)
  exact (verdict_of_rerun rfl hr (Or.inl (by decide)) hs).1 (Or.inl rfl)

/-- **Promoting a checksum alone is not enough for a pass**: the image baseline is missing. -/
theorem not_all_reruns_pass :
    ¬ ∀ (w : Writer) (test : Path) (request : Request) (r r' : Run), request.newBaseline = true →
      ((givenChecksum? request).isSome = true ∨ ∃ image data, request.image = some image ∧
        r.files.readFile image = .ok data ∧ ∀ suffix ∈ [extension, imageExtension],
          r.files.place image ≠ r.files.place (w.baselinePath test suffix)) →
      compare w test request r = .ok [] r' →
        ∃ s', compare w test { request with newBaseline := false } r' = .ok [] s' := by
  intro h
  obtain ⟨r', hr⟩ : ∃ r', compare ⟨"linux", .ofString "out", .ofDirectory (.ofString "tests")⟩
      (.ofString "tests/a.html") ⟨true, none, some "h1", false, false⟩
      (.begin .empty .empty (.scripted [] [])) = .ok [] r' := exists_of_answer? (by decide +kernel)
  obtain ⟨s', hs⟩ := h _ _ _ _ _ rfl (Or.inl (by decide)) hr
  rw [← endOf_ok hr] at hs
  have hpass := (congrArg answer? hs).trans (show answer? (.ok [] s') = some [] from rfl)
  revert hpass
  decide +kernel

end Baseline.ChecksumComparison
