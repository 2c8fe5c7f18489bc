import Baseline.Proofs.Abreast
import Baseline.Proofs.Comparison.Frame

/-!
# Comparisons abreast

A comparison without word diffs reads its baselines and its image (`Case.sources`),
and makes a directory and writes artifacts in it (`Case.artifacts`).  When one tree is
ahead of another by work that has nothing to do with these (`Case.Beside`), it runs
abreast in the two (`Case.Beside.compare_keeps`): it comes to the same verdict or the same
error, and leaves the one tree ahead of the other as before.
-/

namespace Baseline

open Action FileTree

variable {t₀ : FileTree} {written made : Location → Prop}

/-! ### What a comparison reads and writes -/

namespace Engine

/-- What follows a test's name in the artifacts that are no word diffs. -/
def plainMarks : Engine → List String
  | .text => (Writer.resultMarks "" TextComparison.extension).dropLast
  | .checksum => artifactMarks .checksum

theorem plainMarks_subset (e : Engine) {mark : String} (h : mark ∈ e.plainMarks) :
    mark ∈ e.artifactMarks := by
  cases e with
  | text => exact List.dropLast_subset _ h
  | checksum => exact h

/-- Where the baselines of a test are looked for. -/
def candidates (e : Engine) (w : Writer) (test : Path) : List Path :=
  e.extensions.flatMap fun extension =>
    [w.baselinePath test extension, Checkout.sharedBaseline test extension]

end Engine

/-- What is judged: a test and its output, by a kind of comparison, with the wishes for it. -/
structure Case where
  engine : Engine
  test : Path
  output : Bytes
  request : Request

namespace Case

/-- Judge it. -/
def compare (c : Case) (w : Writer) : Action Verdict :=
  c.engine.compare w c.test c.output c.request

/-- The artifacts that may be written when no word diff is wanted. -/
def artifacts (c : Case) (w : Writer) : List Path :=
  c.engine.plainMarks.map (w.artifactPath c.test)

/-- The image that is read: texts have none. -/
def image? (c : Case) : Option Path :=
  match c.engine with
  | .text => none
  | .checksum => c.request.image

/-- The files that are read: wherever a baseline may be, and the image. -/
def sources (c : Case) (w : Writer) : List Path :=
  c.engine.candidates w c.test ++ c.image?.toList

/-- The work that one tree is ahead by is nothing to a case. -/
structure Beside (c : Case) (w : Writer) (t₀ : FileTree) (written made : Location → Prop) :
    Prop where
  noParent : (w.artifactDir c.test).NoParent
  past : ∀ l, l <:+ t₀.place (w.artifactDir c.test) → ¬ written l
  /-- The directory of the artifacts can be made from above, or is there. -/
  last : (stepsOf (w.artifactDir c.test)).getLast? ≠ some .stay ∨
    t₀.node? (t₀.place (w.artifactDir c.test)) = some .directory
  clear : ∀ p ∈ c.artifacts w,
    t₀.Clear written (fun l => made l ∧ ¬ l <:+ t₀.place (w.artifactDir c.test)) p
  untouched : ∀ p ∈ c.sources w, t₀.Untouched written made p

end Case

/-! ### Looking up baselines -/

theorem Writer.expectedBaseline_mem (w : Writer) (files : FileTree) (test : Path)
    (extension : String) : w.expectedBaseline files test extension ∈
      [w.baselinePath test extension, Checkout.sharedBaseline test extension] := by
  unfold expectedBaseline Checkout.expectedBaseline
  split
  · exact List.mem_cons_self
  · split
    · exact List.mem_cons_of_mem _ List.mem_cons_self
    · exact List.mem_cons_self

/-- The same baseline is found where the same files are there. -/
theorem Writer.expectedBaseline_congr {w : Writer} {test : Path} {extension : String}
    {t t' : FileTree}
    (h : ∀ p ∈ [w.baselinePath test extension, Checkout.sharedBaseline test extension],
      t'.isFile p = t.isFile p) :
    w.expectedBaseline t' test extension = w.expectedBaseline t test extension := by
  have hplatform : t'.isFile (w.checkout.platformBaseline w.platform test extension) =
      t.isFile (w.checkout.platformBaseline w.platform test extension) := h _ List.mem_cons_self
  unfold expectedBaseline Checkout.expectedBaseline
  rw [hplatform, h _ (List.mem_cons_of_mem _ List.mem_cons_self)]

/-- **The same baseline is found** in both trees. -/
theorem Writer.expectedBaseline_of_aheadBy {w : Writer} {test : Path} {extension : String}
    {t t' : FileTree} (h : t₀.AheadBy written made t t')
    (hp : ∀ p ∈ [w.baselinePath test extension, Checkout.sharedBaseline test extension],
      t₀.Untouched written made p) :
    w.expectedBaseline t' test extension = w.expectedBaseline t test extension :=
  expectedBaseline_congr fun p hmem => isFile_of_aheadBy h (hp p hmem)

/-! ### Writing artifacts -/

theorem Run.writeAll_keeps {ps : List (Path × Bytes)}
    (h : ∀ pd ∈ ps, t₀.Clear written made pd.1) : Keeps t₀ written made (writeAll ps) := by
  induction ps with
  | nil => exact Abreast.pure ()
  | cons pd ps ih =>
    refine Abreast.bind (write_keeps (h pd List.mem_cons_self) pd.2) fun _ => ?_
    exact ih fun qd hq => h qd (List.mem_cons_of_mem pd hq)

variable {w : Writer} {c : Case}

/-- **The artifacts are written abreast**, once their directory is made. -/
theorem Case.Beside.writeResults_abreast (h : c.Beside w t₀ written made) {extension : String}
    {actual expected : Option Bytes} {diffs : Diffs} (hwords : diffs.words = false)
    (hw : ∀ p ∈ (w.texts c.test "" extension actual expected diffs.lines).map Prod.fst,
      p ∈ c.artifacts w) :
    Abreast (t₀.AheadBy written made) (t₀.AheadBy written made)
      (t₀.AheadBy written fun l => made l ∧ ¬ l <:+ t₀.place (w.artifactDir c.test))
      (w.writeResults c.test "" extension actual expected diffs) := by
  rw [Writer.writeResults_eq, if_neg (by simp [Writer.wantsWords, hwords])]
  refine Abreast.bind (Abreast.bind (Run.ensureDirectory_abreast h.noParent h.past h.last)
    fun _ => ?_) fun _ => Abreast.bind (Abreast.pure ()) fun _ => Abreast.pure _
  refine Abreast.mono (Run.writeAll_keeps fun pd hpd => h.clear _ (hw _ (List.mem_map_of_mem hpd)))
    (fun _ _ hr => hr.mono fun _ hl _ => hl.1) (fun _ _ hr => hr) fun _ _ hr => hr

/-! ### Texts -/

theorem TextComparison.expectedText_keeps {test : Path} (showSources : Bool)
    (hp : ∀ p ∈ [w.baselinePath test extension, Checkout.sharedBaseline test extension],
      t₀.Untouched written made p) :
    Run.Keeps t₀ written made (expectedText w test showSources) := by
  refine Abreast.get (fun r r' hr => ?_) fun r => ?_
  · rw [Writer.expectedBaseline_of_aheadBy hr hp]
  · have hread := Run.readIfThere_keeps (hp _ (w.expectedBaseline_mem r.files test extension))
    exact Abreast.ite (fun _ => Abreast.bind (Run.report_abreast _) fun _ => hread) fun _ => hread

/-- **A text is compared abreast.** -/
theorem Case.Beside.compareText_keeps (h : c.Beside w t₀ written made) (htext : c.engine = .text)
    (hnew : c.request.newBaseline = false) (hwords : c.request.wordDiff = false) :
    Run.Keeps t₀ written made (TextComparison.compare w c.test c.output c.request) := by
  have hsources : ∀ p ∈ [w.baselinePath c.test TextComparison.extension,
      Checkout.sharedBaseline c.test TextComparison.extension], t₀.Untouched written made p := by
    refine fun p hp => h.untouched p (List.mem_append_left _ ?_)
    simpa [Engine.candidates, Engine.extensions, htext] using hp
  rw [TextComparison.compare_of_comparing hnew]
  refine Abreast.bind (TextComparison.expectedText_keeps _ hsources) fun expected => ?_
  refine Abreast.ite (fun _ => Abreast.pure _) fun _ => ?_
  refine Abreast.bind (h.writeResults_abreast hwords fun p hp => ?_) fun _ => ?_
  · have hmem := Writer.mem_textPaths_of_texts hp
    rwa [artifacts, htext]
  · exact Abreast.mono (Abreast.pure _) (fun _ _ hr => hr) (fun _ _ hr => hr)
      fun _ _ hr => hr.mono fun _ hl _ => hl.1

/-! ### Checksums -/

namespace ChecksumComparison

theorem actualChecksum_keeps {request : Request}
    (hp : ∀ image, request.image = some image → t₀.Untouched written made image) :
    Run.Keeps t₀ written made (actualChecksum request) := by
  unfold actualChecksum
  split
  · exact Abreast.pure _
  · rename_i image _ himage
    exact Abreast.bind (Run.read_keeps (hp image himage)) fun _ => Abreast.pure _
  · exact Abreast.pure _

variable {test : Path}
  (hp : ∀ suffix ∈ [extension, imageExtension],
    ∀ p ∈ [w.baselinePath test suffix, Checkout.sharedBaseline test suffix],
      t₀.Untouched written made p)

include hp in
theorem findings_keeps (request : Request) (actual : String) :
    Run.Keeps t₀ written made (findings w test request actual) := by
  have hchecksum := hp extension (by simp)
  have himage := hp imageExtension (by simp)
  refine Abreast.get (fun r r' hr => ?_) fun r => ?_
  · have hfile := isFile_of_aheadBy hr
      (himage _ (w.expectedBaseline_mem r.files test imageExtension))
    simp only [Writer.expectedBaseline_of_aheadBy hr hchecksum,
      Writer.expectedBaseline_of_aheadBy hr himage, hfile]
  · have hread := Run.readIfThere_keeps
      (hchecksum _ (w.expectedBaseline_mem r.files test extension))
    exact Abreast.ite
      (fun _ => Abreast.bind (Run.report_abreast _) fun _ =>
        Abreast.bind hread fun _ => Abreast.pure _)
      fun _ => Abreast.bind hread fun _ => Abreast.pure _

/-- **The images are copied abreast.** -/
theorem copyImages_keeps {image : Option Path} {baseline : Path}
    (himage : ∀ source, image = some source → t₀.Untouched written made source)
    (hbaseline : t₀.Untouched written made baseline)
    (ha : t₀.Clear written made (w.actualPath test "" imageExtension))
    (he : t₀.Clear written made (w.expectedPath test "" imageExtension)) :
    Run.Keeps t₀ written made (copyImages w test image baseline) := by
  refine Abreast.get (fun r r' hr => ?_) fun r => ?_
  · rw [isFile_of_aheadBy hr hbaseline]
  · have hcopy : Run.Keeps t₀ written made
        (if r.files.isFile baseline then Run.copy baseline (w.expectedPath test "" imageExtension)
          else pure ()) :=
      Abreast.ite (fun _ => Run.copy_keeps hbaseline he) fun _ => Abreast.pure ()
    cases image with
    | some source => exact Abreast.bind (Run.copy_keeps (himage source rfl) ha) fun _ => hcopy
    | none => exact hcopy

end ChecksumComparison

/-- What a failing image is judged by is kept abreast. -/
theorem Case.Beside.keepImages_keeps (h : c.Beside w t₀ written made) (hc : c.engine = .checksum)
    (actual expected : String) {baseline : Path} (hbaseline : baseline ∈ c.sources w) :
    Run.Keeps t₀ written made
      (ChecksumComparison.keepImages w c.test c.request.image actual expected baseline) := by
  have hmem : ∀ suffix ∈ [ChecksumComparison.extension, ChecksumComparison.imageExtension],
      w.actualPath c.test "" suffix ∈ c.artifacts w ∧
        w.expectedPath c.test "" suffix ∈ c.artifacts w := by
    rw [artifacts, hc]
    exact Engine.mem_artifactPaths_checksum w c.test
  have hsource : ∀ p ∈ c.sources w, t₀.Untouched written
      (fun l => made l ∧ ¬ l <:+ t₀.place (w.artifactDir c.test)) p :=
    fun p hp => (h.untouched p hp).mono fun _ hl => hl.1
  -- once the checksums are written the directory is there, and the way to the copies is clear
  obtain ⟨hactual, hexpected⟩ := hmem ChecksumComparison.imageExtension (by simp)
  have himage : ∀ source, c.request.image = some source → t₀.Untouched written
      (fun l => made l ∧ ¬ l <:+ t₀.place (w.artifactDir c.test)) source :=
    fun source hs => hsource source (List.mem_append_right _ (by simp [image?, hc, hs]))
  have hcopy := ChecksumComparison.copyImages_keeps himage (hsource baseline hbaseline)
    (h.clear _ hactual) (h.clear _ hexpected)
  refine Abreast.bind (h.writeResults_abreast rfl fun p hp => ?_) fun _ => ?_
  · rcases Writer.mem_texts_of_no_lines hp with rfl | rfl
    · exact (hmem ChecksumComparison.extension (by simp)).1
    · exact (hmem ChecksumComparison.extension (by simp)).2
  · exact hcopy.mono (fun _ _ hr => hr.mono fun _ hl _ => hl.1) (fun _ _ hr => hr)
      fun _ _ hr => hr.mono fun _ hl _ => hl.1

/-- **An image is judged abreast.** -/
theorem Case.Beside.compareChecksum_keeps (h : c.Beside w t₀ written made)
    (hc : c.engine = .checksum) (hnew : c.request.newBaseline = false) :
    Run.Keeps t₀ written made (ChecksumComparison.compare w c.test c.request) := by
  have hcandidate : ∀ suffix ∈ [ChecksumComparison.extension, ChecksumComparison.imageExtension],
      ∀ p ∈ [w.baselinePath c.test suffix, Checkout.sharedBaseline c.test suffix],
        p ∈ c.sources w := by
    intro suffix hsuffix p hp
    refine List.mem_append_left _ (List.mem_flatMap.mpr ⟨suffix, ?_, hp⟩)
    rwa [hc]
  have himage : ∀ image, c.request.image = some image → t₀.Untouched written made image :=
    fun image hi => h.untouched image (List.mem_append_right _ (by simp [image?, hc, hi]))
  rw [ChecksumComparison.compare_of_comparing hnew]
  refine Abreast.bind (ChecksumComparison.actualChecksum_keeps himage) fun found => ?_
  cases found with
  | none => exact Abreast.pure _
  | some actual =>
    refine Abreast.bind_of_ok (ChecksumComparison.findings_keeps
      (fun suffix hs p hp => h.untouched p (hcandidate suffix hs p hp)) c.request actual)
      fun found hfound => ?_
    obtain ⟨r, r', hr⟩ := hfound
    obtain ⟨⟨data, -, rfl⟩, -⟩ := ChecksumComparison.findings_eq_ok.mp hr
    unfold ChecksumComparison.judged
    cases ChecksumComparison.wrong? w c.test r.files actual data with
    | none => exact Abreast.pure _
    | some failure =>
      refine Abreast.bind (h.keepImages_keeps hc actual _ ?_) fun _ => Abreast.pure _
      exact hcandidate _ (by simp) _ (w.expectedBaseline_mem r.files c.test _)

/-- **A comparison runs abreast** in two trees when the work that one is ahead by is nothing to
it. -/
theorem Case.Beside.compare_keeps (h : c.Beside w t₀ written made)
    (hnew : c.request.newBaseline = false) (hwords : c.request.wordDiff = false) :
    Run.Keeps t₀ written made (c.compare w) := by
  unfold Case.compare Engine.compare
  cases hc : c.engine with
  | text => exact h.compareText_keeps hc hnew hwords
  | checksum => exact h.compareChecksum_keeps hc hnew

end Baseline
