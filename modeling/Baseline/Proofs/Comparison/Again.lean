import Baseline.Proofs.Again
import Baseline.Proofs.Comparison.Documented
import Baseline.Proofs.Comparison.Images
import Baseline.Proofs.Comparison.Order
import Baseline.Proofs.Comparison.Verdict

/-!
# Comparing again

A comparison that ended well comes to the same verdict when it is made again, and leaves the
files looking as they did (`again_of_compare`), when nothing that it reads is inside the
output directory or has that inside of it.

What it reads is then the same as before (`Case.Outside.readFile_iff`), and what it
writes can be written again (`Writer.writeResults_again`, `Case.keepImages_again`).

There is one exception.  A baseline that is missing may have a name that is too long for a
directory, or be below one.  That is no fault as long as the directory which that name is
looked for in is missing too.  The first comparison may make that directory, on the way to
the output directory, and then the second one fails (`not_always_again`).
-/

namespace Baseline

open Action FileTree

namespace ChecksumComparison

variable {t : FileTree} {dirs : List Path} {w : Writer} {test baseline : Path}

/-- The paths of the two copies. -/
def imagePaths (w : Writer) (test : Path) : List Path :=
  [actualImagePath w test, expectedImagePath w test]

/-- The checksums and the copies go to different places. -/
theorem place_imagePaths_ne {p q : Path} (hp : p ∈ checksumPaths w test)
    (hq : q ∈ imagePaths w test) : t.place q ≠ t.place p := by
  simp only [checksumPaths, imagePaths, List.mem_cons, List.not_mem_nil, or_false] at hp hq
  rcases hp with rfl | rfl <;> rcases hq with rfl | rfl <;>
    exact w.place_artifactPath_ne test (by decide) (by decide) (by decide) t

/-- The copies that are made when it is known whether the baseline is there. -/
def copies (w : Writer) (test : Path) (image : Option Path) (baseline : Path) (isThere : Bool) :
    Action Unit := do
  match image with
  | some source => Run.copy source (actualImagePath w test)
  | none => pure ()
  if isThere then Run.copy baseline (expectedImagePath w test)

theorem copyImages_eq (w : Writer) (test : Path) (image : Option Path) (baseline : Path) :
    copyImages w test image baseline =
      get >>= fun r => copies w test image baseline (r.files.isFile baseline) := rfl

variable {image : Option Path} (hsources : ∀ p ∈ baseline :: image.toList,
  ∀ q ∈ imagePaths w test, t.place q ≠ t.place p)

include hsources

theorem copies_again (isThere : Bool) :
    Again t (baseline :: image.toList ++ imagePaths w test) (imagePaths w test) dirs
      (copies w test image baseline isThere) := by
  have hcopy : Again t [baseline, expectedImagePath w test] [expectedImagePath w test] dirs
      (if isThere then Run.copy baseline (expectedImagePath w test) else pure ()) := by
    cases isThere with
    | false => exact (Again.pure ()).mono (by simp) (by simp)
    | true => exact Run.copy_again baseline (expectedImagePath w test)
  cases image with
  | none => exact hcopy.mono (by simp [imagePaths]) (by simp [imagePaths])
  | some source =>
    refine (Again.bind (Run.copy_again source (actualImagePath w test)) (fun _ => hcopy)
      fun p hp q hq => ?_).mono (by simp [imagePaths]) (by simp [imagePaths])
    rw [List.mem_singleton.mp hq]
    rcases List.mem_cons.mp hp with rfl | hp
    · exact hsources p (by simp) _ (by simp [imagePaths])
    · rw [List.mem_singleton.mp hp]
      exact (place_actualImagePath_ne w test t).symm

/-- **The images can be copied again** when neither the image nor its baseline is where a copy
goes. -/
theorem copyImages_again (hb : baseline.NoParent) :
    Again t (baseline :: image.toList ++ imagePaths w test) (imagePaths w test) dirs
      (copyImages w test image baseline) := by
  rw [copyImages_eq]
  exact (Again.isFile hb (copies_again hsources) (hsources baseline (by simp))).mono (by simp)
    (by simp)

/-- **What a failing image is judged by** can be kept again. -/
theorem keepImages_again (hb : baseline.NoParent) (actual expected : String) :
    ∃ uses writes, Again t uses writes (w.artifactDir test).ancestors
      (keepImages w test image actual expected baseline) := by
  refine ⟨_, _, Again.bind (w.writeResults_again test (by decide) (by decide) _ _ rfl)
    (fun _ => copyImages_again hsources hb) fun p hp q hq => place_imagePaths_ne ?_ hq⟩
  rcases Writer.mem_texts_of_no_lines hp with rfl | rfl <;> simp [checksumPaths]

end ChecksumComparison

/-! ### What a comparison reads the second time -/

/-- A missing baseline is the platform's. -/
theorem Writer.expectedBaseline_of_error {w : Writer} {test : Path} {extension : String}
    {t : FileTree} {fault : Fault}
    (h : t.readFile (w.expectedBaseline t test extension) = .error fault) :
    w.expectedBaseline t test extension = w.baselinePath test extension := by
  have hfile : t.isFile (w.expectedBaseline t test extension) = false := by
    rw [Bool.eq_false_iff, ne_eq, isFile_iff, h]
    simp
  rcases List.mem_pair.mp (w.expectedBaseline_mem t test extension) with hplatform | hshared
  · exact hplatform
  · -- the shared baseline is only taken when it is a file
    unfold expectedBaseline Checkout.expectedBaseline at hfile hshared ⊢
    split
    · rfl
    · split
      · rename_i hthere
        simp_all
      · rfl

namespace Case

/-- The output directory is not there, and the path of a baseline has a name that is too long for a
directory. -/
structure Overlooks (c : Case) (w : Writer) (t : FileTree) (extension : String) : Prop where
  mem : extension ∈ c.engine.extensions
  absent : t.node? (t.place w.outputDir) ≠ some .directory
  long : Overlong (stepsOf (w.baselinePath c.test extension))

/-- Whichever baseline is found is read. -/
theorem expectedBaseline_mem_sources (c : Case) (w : Writer) (t : FileTree) {extension : String}
    (he : extension ∈ c.engine.extensions) :
    w.expectedBaseline t c.test extension ∈ c.sources w :=
  List.mem_append_left _
    (List.mem_flatMap.mpr ⟨extension, he, w.expectedBaseline_mem t c.test extension⟩)

theorem image_mem_sources {c : Case} (hchecksum : c.engine = .checksum) {image : Path}
    (himage : c.request.image = some image) (w : Writer) : image ∈ c.sources w :=
  List.mem_append_right _ (by simp [image?, hchecksum, himage])

section

variable {w : Writer} {c : Case} {t t' : FileTree} (h : c.Outside w t)

include h

/-- No artifact is where a source is. -/
theorem Outside.place_ne {p : Path} (hp : p ∈ c.sources w) :
    ∀ q ∈ c.artifacts w, t.place q ≠ t.place p :=
  fun _ hq he => h.not_artifact_above hp hq (he ▸ List.suffix_rfl)

open ChecksumComparison in
/-- **What a failing image is judged by** can be kept again. -/
theorem Outside.keepImages_again (hw : w.LeadsDown) (hchecksum : c.engine = .checksum)
    (actual expected : String) :
    ∃ uses writes, Again t uses writes (w.artifactDir c.test).ancestors
      (keepImages w c.test c.request.image actual expected
        (w.expectedBaseline t c.test imageExtension)) := by
  have hbaseline := c.expectedBaseline_mem_sources w t
    (show imageExtension ∈ c.engine.extensions by simp [hchecksum, Engine.extensions])
  refine ChecksumComparison.keepImages_again (fun p hp q hq => h.place_ne ?_ q ?_)
    (h.noParent_of_mem_sources hw hbaseline) actual expected
  · rcases List.mem_cons.mp hp with rfl | hp
    · exact hbaseline
    · exact image_mem_sources hchecksum (by simpa using hp) w
  · have hartifact := Engine.mem_artifactPaths_checksum w c.test imageExtension (by simp)
    rw [artifacts, hchecksum]
    rcases List.mem_pair.mp hq with rfl | rfl
    · exact hartifact.1
    · exact hartifact.2

variable (hw : w.LeadsDown) (hc : t.ChangesOnly (c.artifacts w) (w.artifactDir c.test).ancestors t')

include hw hc

theorem Outside.isFile_eq {p : Path} (hp : p ∈ c.sources w) : t'.isFile p = t.isFile p :=
  hc.isFile_eq (h.noParent_of_mem_sources hw hp) (h.place_ne hp)

/-- **The same baseline is found again.** -/
theorem Outside.expectedBaseline_eq {extension : String} (he : extension ∈ c.engine.extensions) :
    w.expectedBaseline t' c.test extension = w.expectedBaseline t c.test extension :=
  Writer.expectedBaseline_congr fun _ hp => h.isFile_eq hw hc
    (List.mem_append_left _ (List.mem_flatMap.mpr ⟨extension, he, hp⟩))

/-- **What is read again** is the same, unless a name that is too long was not looked for the first
time. -/
theorem Outside.readFile_eq_or {p : Path} (hp : p ∈ c.sources w)
    (hne : t.place p ≠ t.place w.outputDir) :
    t'.readFile p = t.readFile p ∨
      t.readFile p = .error .notFound ∧ t'.readFile p = .error .nameTooLong ∧
        t.node? (t.place w.outputDir) ≠ some .directory ∧ Overlong (stepsOf p) := by
  have habove := fun {l : Location} (hl : l <:+ t.place p) (hm : t.Made t' l) =>
    h.suffix_outputDir hp hne (hw.suffix_of_made hc hm) hl
  have hpast : ∀ l, l <:+ t.place p → ¬ ∃ q ∈ c.artifacts w, t.place q = l := by
    rintro l hl ⟨q, hq, rfl⟩
    exact h.not_artifact_above hp hq hl
  rcases readFile_eq_or_of_aheadBy hc.aheadBy (h.noParent_of_mem_sources hw hp) hpast
      (fun hm => (habove List.suffix_rfl hm).2 rfl) with
    hsame | ⟨hmissed, hrefused, ⟨l, hl, hm⟩, hlong⟩
  · exact Or.inl hsame
  · refine Or.inr ⟨hmissed, hrefused, fun hd => ?_, hlong⟩
    have hthere := directory_of_suffix hd (habove hl hm).1
    simp [hm.1] at hthere

/-- **What a baseline counts as** it counts as again, unless it is refused now. -/
theorem Outside.countsAs_or (helse : ∀ p ∈ c.sources w, t.place p ≠ t.place w.outputDir)
    {extension : String} (he : extension ∈ c.engine.extensions) {data : Bytes}
    (hdata : t.CountsAs (w.expectedBaseline t c.test extension) data) :
    t'.CountsAs (w.expectedBaseline t' c.test extension) data ∨
      c.Overlooks w t extension ∧
        w.expectedBaseline t' c.test extension = w.baselinePath c.test extension ∧
        t'.readFile (w.baselinePath c.test extension) = .error .nameTooLong := by
  rw [h.expectedBaseline_eq hw hc he]
  have hp := c.expectedBaseline_mem_sources w t he
  rcases h.readFile_eq_or hw hc hp (helse _ hp) with hsame | ⟨hmissed, hrefused, habsent, hlong⟩
  · refine Or.inl ?_
    unfold CountsAs Missing at hdata ⊢
    rwa [hsame]
  · have hplatform := Writer.expectedBaseline_of_error hmissed
    rw [hplatform] at hrefused hlong ⊢
    exact Or.inr ⟨⟨he, habsent, hlong⟩, rfl, hrefused⟩

end

/-! ### The whole comparison -/

/-- How a comparison that had the verdict `v` and led from the files `t` to the files `t'` ends when
it is made again in `t'`. -/
inductive Repeated (c : Case) (w : Writer) (t t' : FileTree) (v : Verdict) :
    EStateM.Result RunError Run Verdict → Prop
  /-- With the same verdict, and in files that look the same. -/
  | same {s : Run} (h : Same t' s.files) : Repeated c w t t' v (.ok v s)
  /-- With a baseline that has too long a name, which was not found out before. -/
  | refused {extension : String} {s : Run} (h : c.Overlooks w t extension) (hs : s.files = t') :
    Repeated c w t t' v
      (.error (.file (w.baselinePath c.test extension) .nameTooLong) s)

variable {w : Writer} {c : Case} {r r' s : Run} {v : Verdict} (h : c.Outside w r.files)
  (hw : w.LeadsDown) (helse : ∀ p ∈ c.sources w, r.files.place p ≠ r.files.place w.outputDir)
  (hc : r.files.ChangesOnly (c.artifacts w) (w.artifactDir c.test).ancestors r'.files)
  (hs : s.files = r'.files)

include h hw helse hc hs

/-- **A text is compared again.** -/
theorem Outside.repeated_text (htext : c.engine = .text)
    (hr : TextComparison.compare w c.test c.output c.request r = .ok v r') :
    c.Repeated w r.files r'.files v (TextComparison.compare w c.test c.output c.request s) := by
  have hextension : TextComparison.extension ∈ c.engine.extensions := by
    simp [htext, Engine.extensions]
  obtain ⟨expected, hcounts, hend⟩ := (TextComparison.compare_eq_ok h.compared).mp hr
  rw [← hs] at hc ⊢
  rcases h.countsAs_or hw hc helse hextension hcounts with hagain | ⟨hover, hpath, hrefused⟩
  · rcases hend with ⟨heq, rfl, rfl⟩ | ⟨hne, rfl, set, hwrite⟩
    · rw [(TextComparison.compare_eq_ok h.compared).mpr
        ⟨expected, hagain, Or.inl ⟨heq, rfl, rfl⟩⟩]
      exact .same (.refl _)
    · have hsince : r'.files.ChangesOnly [] []
          (TextComparison.afterLookUp w c.test c.request.showSources s).files :=
        hs ▸ ChangesOnly.refl [] [] s.files
      obtain ⟨s', hwrite', hsame⟩ := (w.writeResults_again c.test (by decide) (by decide) _ _
        h.wordless).again rfl hwrite hsince (by simp)
      rw [(TextComparison.compare_eq_ok h.compared).mpr
        ⟨expected, hagain, Or.inr ⟨hne, rfl, set, hwrite'⟩⟩]
      exact .same hsame
  · have hread : s.files.readFile (w.expectedBaseline s.files c.test TextComparison.extension) =
        .error .nameTooLong := by rw [hpath, hrefused]
    rw [TextComparison.compare_of_comparing h.compared,
      bind_of_error (TextComparison.expectedText_of_unreadable hread (by decide)), hpath]
    exact .refused hover rfl

omit hw helse in
/-- The same checksum is found again. -/
theorem Outside.actualChecksum_again (hchecksum : c.engine = .checksum) {found : Option String}
    (hfound : ChecksumComparison.actualChecksum c.request r = .ok found r) :
    ChecksumComparison.actualChecksum c.request s = .ok found s := by
  rw [ChecksumComparison.actualChecksum_eq_ok] at hfound ⊢
  refine ⟨rfl, hfound.2.imp_right (And.imp_right (Or.imp_left ?_))⟩
  rintro ⟨image, data, himage, hdata, rfl⟩
  have hread := hc.readFile hdata (h.place_ne (image_mem_sources hchecksum himage w))
  exact ⟨image, data, himage, hs ▸ hread, rfl⟩

open ChecksumComparison in
/-- **An image is compared again.** -/
theorem Outside.repeated_checksum (hchecksum : c.engine = .checksum)
    (hr : ChecksumComparison.compare w c.test c.request r = .ok v r') :
    c.Repeated w r.files r'.files v (ChecksumComparison.compare w c.test c.request s) := by
  have hextension : ∀ suffix ∈ [extension, imageExtension], suffix ∈ c.engine.extensions := by
    simp [hchecksum, Engine.extensions]
  rcases (compare_eq_ok h.compared).mp hr with
    ⟨hfound, rfl, rfl⟩ | ⟨actual, data, hfound, hcounts, hend⟩
  · rw [(compare_eq_ok h.compared).mpr (Or.inl
      ⟨h.actualChecksum_again hc hs hchecksum hfound, rfl, rfl⟩)]
    exact .same (hs ▸ .refl _)
  have hfound' := h.actualChecksum_again hc hs hchecksum hfound
  rw [← hs] at hc ⊢
  have himage := h.expectedBaseline_eq hw hc (hextension imageExtension (by simp))
  have hmem := c.expectedBaseline_mem_sources w r.files (hextension imageExtension (by simp))
  have hwrong : wrong? w c.test s.files actual data = wrong? w c.test r.files actual data := by
    rw [wrong?, wrong?, himage, h.isFile_eq hw hc hmem]
  rcases h.countsAs_or hw hc helse (hextension extension (by simp)) hcounts with
    hagain | ⟨hover, hpath, hrefused⟩
  · rcases hend with ⟨hright, rfl, rfl⟩ | ⟨failure, hfails, rfl, hkeep⟩
    · rw [(compare_eq_ok h.compared).mpr (Or.inr
        ⟨actual, data, hfound', hagain, Or.inl ⟨hwrong.trans hright, rfl, rfl⟩⟩)]
      exact .same (.refl _)
    · have hsince : r'.files.ChangesOnly [] []
          (afterLookUp w c.test c.request.showSources s).files :=
        hs ▸ ChangesOnly.refl [] [] s.files
      have hstart : (afterLookUp w c.test c.request.showSources r).files.start = r.files.start := rfl
      obtain ⟨uses, writes, hkept⟩ := h.keepImages_again hw hchecksum actual (recordedChecksum data)
      obtain ⟨s', hkeep', hsame⟩ := hkept.again hstart hkeep hsince (by simp)
      rw [← himage] at hkeep'
      rw [(compare_eq_ok h.compared).mpr (Or.inr
        ⟨actual, data, hfound', hagain, Or.inr ⟨failure, hwrong.trans hfails, rfl, hkeep'⟩⟩)]
      exact .same hsame
  · have hread : s.files.readFile (w.expectedBaseline s.files c.test extension) =
        .error .nameTooLong := by rw [hpath, hrefused]
    rw [compare_of_comparing h.compared, bind_of_ok hfound']
    dsimp only
    rw [bind_of_error (findings_of_unreadable hread (by decide)), hpath]
    exact .refused hover rfl

end Case

/-- **A comparison that ended well** has the same verdict when it is made again, and leaves the
files looking as they did; only a baseline that is missing and has too long a name may be refused
now. -/
theorem repeated_of_compare {w : Writer} {c : Case} {r r' s : Run} {v : Verdict}
    (hw : w.LeadsDown) (h : c.Outside w r.files)
    (helse : ∀ p ∈ c.sources w, r.files.place p ≠ r.files.place w.outputDir)
    (hr : c.compare w r = .ok v r') (hs : s.files = r'.files) :
    c.Repeated w r.files r'.files v (c.compare w s) := by
  have hc := h.changesOnly r
  rw [endOf_ok hr] at hc
  unfold Case.compare Engine.compare at hr ⊢
  cases hengine : c.engine with
  | text => exact h.repeated_text hw helse hc hs hengine (by simpa only [hengine] using hr)
  | checksum => exact h.repeated_checksum hw helse hc hs hengine (by simpa only [hengine] using hr)

/-- A checksum that differs, with an image and an image baseline that are copied both times. -/
theorem repeated_first_failure :
    let w : Writer := ⟨"linux", .ofString "out", .ofDirectory (.ofString "tests")⟩
    let c : Case := ⟨.checksum, .ofString "tests/a.html", [],
      ⟨false, some (.ofString "a.png"), some "cd", false, false⟩⟩
    ∃ r' s', c.compare w ChecksumComparison.withImages = .ok [.checksumMismatch "ab" "cd"] r' ∧
      c.compare w r' = .ok [.checksumMismatch "ab" "cd"] s' ∧ Same r'.files s'.files := by
  intro w c
  obtain ⟨r', hr⟩ : ∃ r', c.compare w ChecksumComparison.withImages =
      .ok [.checksumMismatch "ab" "cd"] r' := exists_of_answer? (by decide +kernel)
  have hrepeated := repeated_of_compare (s := r')
    ⟨by decide +kernel, by decide +kernel, by decide +kernel⟩
    ⟨rfl, rfl, by decide +kernel, by decide +kernel, by decide +kernel⟩ (by decide +kernel) hr rfl
  generalize hs : c.compare w r' = result at hrepeated
  cases hrepeated with
  | @same s' hsame => exact ⟨r', s', hr, hs, hsame⟩
  | refused h => exact absurd (by decide +kernel) h.absent

/-- A test whose baselines have names that are too long for a directory, though its artifacts have
not. -/
def overlongTest : Path :=
  ⟨Utf8.encode "LayoutTests/" ++ List.replicate 243 110 ++ Utf8.encode ".html"⟩

/-- **Not every comparison can be made again**: the first one makes the directory of the platform,
on the way to the output directory, and the second one finds that the name of the baseline is too
long for it. -/
theorem not_always_repeated :
    ¬ ∀ (w : Writer) (c : Case) (r r' : Run) (v : Verdict), w.LeadsDown → c.Outside w r.files →
      (∀ p ∈ c.sources w, r.files.place p ≠ r.files.place w.outputDir) →
      c.compare w r = .ok v r' →
        ∃ s', c.compare w r' = .ok v s' ∧ Same r'.files s'.files := by
  intro h
  let w : Writer := ⟨"linux", .ofString "bl/linux/results",
    (Checkout.ofDirectory (.ofString "LayoutTests")).withBaselineDir (.ofString "bl")⟩
  let c := Case.text overlongTest [120]
  obtain ⟨r', hr⟩ : ∃ r', c.compare w .fresh = .ok [.missingText] r' :=
    exists_of_answer? (by decide +kernel)
  obtain ⟨s', hs, -⟩ := h w c .fresh r' _ ⟨by decide +kernel, by decide +kernel, by decide +kernel⟩
    ⟨rfl, rfl, by decide +kernel, by decide +kernel, by decide +kernel⟩ (by decide +kernel) hr
  rw [← endOf_ok hr] at hs
  have hwell := (congrArg endedWell hs).trans (show endedWell (.ok _ s') = true from rfl)
  revert hwell
  decide +kernel

end Baseline
