import Baseline.Proofs.Comparison.Abreast
import Baseline.Proofs.FileTree.EitherOrder

/-!
# The order of comparisons

Two comparisons through one writer have nothing to do with each other (`Unrelated`)
when neither writes a file that the other writes or has to go through, and neither
reads anything inside the output directory or that this is inside of.

They share the directories above their artifacts: the one that comes first makes them
and the other one finds them.  When the output directory is there from the start, or
can be made from any path and read as well before as after (`Case.Prepared`), that
makes no difference, and each of them comes to the same in either order
(`same_in_either_order`).  Else it may (`not_same_in_every_order`).
-/

namespace Baseline

open Action FileTree Path

namespace Case

/-- A case that is compared without a word diff, with paths that lead down, and that reads nothing
inside the output directory and nothing that this is inside of. -/
structure Outside (c : Case) (w : Writer) (t : FileTree) : Prop where
  compared : c.request.newBaseline = false
  wordless : c.request.wordDiff = false
  test : c.test.NoParent
  image : ∀ p ∈ c.image?.toList, p.NoParent
  outside : ∀ p ∈ c.sources w, ¬ Inside (t.place p) (t.place w.outputDir) ∧
    ¬ Inside (t.place w.outputDir) (t.place p)

/-- The output directory is no file that the case reads, and it is there; or else its path does not
end in `.` and the case reads no name that is too long for a directory. -/
structure Prepared (c : Case) (w : Writer) (t : FileTree) : Prop where
  elsewhere : ∀ p ∈ c.sources w, t.place p ≠ t.place w.outputDir
  there : t.node? (t.place w.outputDir) = some .directory ∨
    (stepsOf w.outputDir).getLast? ≠ some .stay ∧
      ∀ p ∈ c.sources w, ∀ n ∈ downs (stepsOf p), n.length ≤ longestName

end Case

/-- Paths of a writer that lead down. -/
structure Writer.LeadsDown (w : Writer) : Prop where
  outputDir : w.outputDir.NoParent
  baselineDir : w.checkout.baselineDir.NoParent
  platform : (Path.ofString w.platform).NoParent

/-- Two cases of one writer that have nothing to do with each other: no artifact that the one may
have is an artifact that the other may have, or above it. -/
structure Unrelated (w : Writer) (a b : Case) (t : FileTree) : Prop where
  writer : w.LeadsDown
  left : a.Outside w t
  right : b.Outside w t
  apart : ∀ p ∈ a.artifacts w, ∀ q ∈ b.artifacts w,
    ¬ t.place p <:+ t.place q ∧ ¬ t.place q <:+ t.place p

theorem Unrelated.symm {w : Writer} {a b : Case} {t : FileTree} (h : Unrelated w a b t) :
    Unrelated w b a t :=
  ⟨h.writer, h.right, h.left, fun p hp q hq => (h.apart q hq p hp).symm⟩

/-! ### Where the paths of a case lead -/

namespace Writer

variable {w : Writer}

theorem LeadsDown.artifactDir (h : w.LeadsDown) (test : Path) : (w.artifactDir test).NoParent := by
  unfold Writer.artifactDir
  rw [Checkout.parent?_relative]
  split
  · rename_i parent hparent
    split at hparent
    · simp at hparent
    · obtain rfl := Option.some.inj hparent
      exact h.outputDir.join (noParent_ofNames fun n hn =>
        Checkout.isName_of_mem_relativeNames (List.dropLast_subset _ hn))
  · exact h.outputDir

theorem LeadsDown.artifactPath (h : w.LeadsDown) {e : Engine} {mark : String}
    (hm : mark ∈ e.artifactMarks) (test : Path) : (w.artifactPath test mark).NoParent := by
  obtain ⟨hslash, hdash⟩ := Engine.dash_mem_of_mark hm
  rw [w.artifactPath_eq test hslash]
  refine (h.artifactDir test).opened_append (noParent_name (isName_of_dash ?_ (by simp [hdash])))
  simp [no_slash_artifactStem, hslash]

theorem LeadsDown.baselinePath (h : w.LeadsDown) (test : Path) {suffix : String}
    (hs : '/' ∉ suffix.toList) : (w.baselinePath test suffix).NoParent :=
  noParent_baselinePath (noParent_baselineDir h.baselineDir h.platform test) hs

/-- The steps to the directory of a test's artifacts. -/
theorem stepsOf_artifactDir (w : Writer) (test : Path) : stepsOf (w.artifactDir test) =
    stepsOf w.outputDir ++ (w.checkout.relativeNames test).dropLast.map .down := by
  unfold artifactDir
  rw [Checkout.parent?_relative]
  by_cases hnil : w.checkout.relativeNames test = []
  · simp [hnil]
  · have hnames : ∀ n ∈ (w.checkout.relativeNames test).dropLast, IsName n := fun n hn =>
      Checkout.isName_of_mem_relativeNames (List.dropLast_subset _ hn)
    rw [if_neg hnil]
    dsimp only
    rw [stepsOf_join (isAbsolute_ofNames hnames), stepsOf_ofNames hnames]

/-- A path that a directory of artifacts is inside of, or the other way round, has to do with the
output directory in the same way. -/
theorem suffix_outputDir_or (w : Writer) (test : Path) (t : FileTree) {l : Location}
    (h : l <:+ t.place (w.artifactDir test)) :
    l <:+ t.place w.outputDir ∨ t.place w.outputDir <:+ l := by
  rw [w.place_artifactDir] at h
  exact List.suffix_or_suffix_of_suffix h (List.suffix_append _ _)

/-- The directories that are made for artifacts are on the way to them. -/
theorem LeadsDown.suffix_of_made (h : w.LeadsDown) {test : Path} {writes : List Path}
    {t t' : FileTree} (hc : t.ChangesOnly writes (w.artifactDir test).ancestors t') {l : Location}
    (hl : t.Made t' l) : l <:+ t.place (w.artifactDir test) := by
  obtain ⟨q, hq, rfl⟩ := hc.place_of_made hl
  exact place_of_mem_ancestors (h.artifactDir test) hq t

end Writer

namespace Case

variable {w : Writer} {a b c : Case} {t : FileTree}

/-- An artifact is one name below the directory of the artifacts. -/
theorem place_of_mem_artifacts {p : Path} (hp : p ∈ c.artifacts w) (t : FileTree) :
    ∃ n, t.place p = n :: t.place (w.artifactDir c.test) := by
  obtain ⟨mark, hmark, rfl⟩ := List.mem_map.mp hp
  rw [w.place_artifactDir]
  exact ⟨_, Engine.place_of_mark (c.engine.plainMarks_subset hmark) w c.test t⟩

theorem exists_mem_artifacts (c : Case) (w : Writer) : ∃ p, p ∈ c.artifacts w := by
  unfold artifacts
  cases c.engine <;> exact ⟨_, List.mem_map_of_mem List.mem_cons_self⟩

theorem Outside.noParent_of_mem_sources (h : c.Outside w t) (hw : w.LeadsDown) {p : Path}
    (hp : p ∈ c.sources w) : p.NoParent := by
  rcases List.mem_append.mp hp with hcandidate | himage
  · obtain ⟨extension, hextension, hp⟩ := List.mem_flatMap.mp hcandidate
    have hslash := Engine.no_slash_of_extension hextension
    rcases List.mem_cons.mp hp with rfl | hp
    · exact hw.baselinePath c.test hslash
    · rw [List.mem_singleton.mp hp]
      exact h.test.withFileName (Checkout.isName_expectedName c.test hslash)
  · exact h.image p himage

theorem Prepared.last (h : c.Prepared w t) :
    (stepsOf (w.artifactDir c.test)).getLast? ≠ some .stay ∨
      t.node? (t.place (w.artifactDir c.test)) = some .directory := by
  rw [w.stepsOf_artifactDir, w.place_artifactDir]
  rcases List.eq_nil_or_concat (w.checkout.relativeNames c.test).dropLast with hnil | ⟨ns, n, hns⟩
  · rw [hnil]
    rcases h.there with hd | ⟨hlast, -⟩
    · exact Or.inr hd
    · exact Or.inl (by simpa using hlast)
  · exact Or.inl (by simp [hns, List.concat_eq_append])

/-- No artifact is on the way to a source: it is inside the output directory. -/
theorem Outside.not_artifact_above (h : a.Outside w t) {p : Path} (hp : p ∈ a.sources w)
    {q : Path} (hq : q ∈ b.artifacts w) : ¬ t.place q <:+ t.place p := by
  intro hl
  obtain ⟨n, hn⟩ := place_of_mem_artifacts hq t
  rw [hn, w.place_artifactDir] at hl
  have hinside := inside_cons_append n (w.checkout.relativeNames b.test).dropLast.reverse
    (t.place w.outputDir)
  refine (h.outside p hp).1 ⟨hinside.1.trans hl, fun he => ?_⟩
  rw [he] at hl
  exact hinside.2 (hl.eq_of_length_le hinside.1.length_le)

/-- What is on the way to artifacts and on the way to a source is above the output directory. -/
theorem Outside.suffix_outputDir (h : a.Outside w t) {p : Path} (hp : p ∈ a.sources w)
    (hne : t.place p ≠ t.place w.outputDir) {test : Path} {l : Location}
    (hl : l <:+ t.place (w.artifactDir test)) (hlp : l <:+ t.place p) :
    l <:+ t.place w.outputDir ∧ l ≠ t.place p := by
  obtain ⟨hbelow, habove⟩ := h.outside p hp
  rcases w.suffix_outputDir_or test t hl with hout | hout
  · exact ⟨hout, fun he => habove ⟨he ▸ hout, hne.symm⟩⟩
  · exact absurd ⟨hout.trans hlp, hne⟩ hbelow

/-- What a case changes. -/
theorem Outside.changesOnly (h : c.Outside w t) (r : Run) :
    r.files.ChangesOnly (c.artifacts w) (w.artifactDir c.test).ancestors
      (endOf (c.compare w r)).files := by
  unfold Case.compare Engine.compare artifacts
  cases hc : c.engine with
  | text =>
    exact (TextComparison.compare_fileWork h.compared h.wordless (fun _ hp => hp)
      (fun _ hq => hq) r).files
  | checksum =>
    exact (ChecksumComparison.compare_fileWork h.compared
      (Engine.mem_artifactPaths_checksum w c.test) (fun _ hq => hq) r).files

end Case

/-! ### One case beside the other -/

section

variable {w : Writer} {a b : Case} {t : FileTree} (h : Unrelated w a b t)

include h

/-- No artifact of the one case is on the way to an artifact of the other. -/
theorem Unrelated.not_artifact {p : Path} (hp : p ∈ a.artifacts w) {l : Location}
    (hl : l <:+ t.place p) : ¬ ∃ q ∈ b.artifacts w, t.place q = l := by
  rintro ⟨q, hq, rfl⟩
  exact (h.apart p hp q hq).2 hl

/-- No artifact of the one case stands where a directory of the other is. -/
theorem Unrelated.not_above {p : Path} (hp : p ∈ a.artifacts w) :
    ¬ t.place p <:+ t.place (w.artifactDir b.test) := by
  intro hl
  obtain ⟨q, hq⟩ := b.exists_mem_artifacts w
  obtain ⟨n, hn⟩ := Case.place_of_mem_artifacts hq t
  exact (h.apart p hp q hq).1 (hn ▸ hl.trans (List.suffix_cons n _))

variable {t' : FileTree}
  (hc : t.ChangesOnly (b.artifacts w) (w.artifactDir b.test).ancestors t')

include hc

/-- Nothing is written or made on the way to an artifact of the other case, but directories on the
way to the directory that it is in. -/
theorem Unrelated.clear {p : Path} (hp : p ∈ a.artifacts w) :
    t.Clear (fun l => ∃ q ∈ b.artifacts w, t.place q = l)
      (fun l => t.Made t' l ∧ ¬ l <:+ t.place (w.artifactDir a.test)) p where
  noParent := by
    obtain ⟨mark, hmark, rfl⟩ := List.mem_map.mp hp
    exact h.writer.artifactPath (a.engine.plainMarks_subset hmark) a.test
  past l hl := by
    refine ⟨h.not_artifact hp hl, fun ⟨hmade, hfar⟩ => ?_⟩
    obtain ⟨n, hn⟩ := Case.place_of_mem_artifacts hp t
    -- all that is on the way but the artifact itself is on the way to its directory
    rw [hn] at hl
    rcases List.suffix_cons_iff.mp hl with rfl | hl
    · exact h.not_above hp (hn ▸ h.writer.suffix_of_made hc hmade)
    · exact hfar hl

/-- What is written and made is nothing to a source of the other case. -/
theorem Unrelated.untouched (ha : a.Prepared w t) {p : Path} (hp : p ∈ a.sources w) :
    t.Untouched (fun l => ∃ q ∈ b.artifacts w, t.place q = l) (t.Made t') p := by
  have habove := fun {l : Location} (hl : l <:+ t.place p) (hm : t.Made t' l) =>
    h.left.suffix_outputDir hp (ha.elsewhere p hp) (h.writer.suffix_of_made hc hm) hl
  refine ⟨h.left.noParent_of_mem_sources h.writer hp, ?_,
    fun hm => (habove List.suffix_rfl hm).2 rfl, fun l hl hm n hn => ?_⟩
  · rintro l hl ⟨q, hq, rfl⟩
    exact h.left.not_artifact_above hp hq hl
  · rcases ha.there with hd | ⟨-, hshort⟩
    · -- nothing is made above what is there
      have hthere := directory_of_suffix hd (habove hl hm).1
      simp [hm.1] at hthere
    · exact hshort p hp n (List.mem_filterMap.mpr ⟨_, hn, rfl⟩)

/-- **What the second case does is nothing to the first.** -/
theorem Unrelated.beside (ha : a.Prepared w t) :
    a.Beside w t (fun l => ∃ q ∈ b.artifacts w, t.place q = l) (t.Made t') where
  noParent := h.writer.artifactDir a.test
  past l hl := by
    obtain ⟨p, hp⟩ := a.exists_mem_artifacts w
    obtain ⟨n, hn⟩ := Case.place_of_mem_artifacts hp t
    exact h.not_artifact hp (hn ▸ hl.trans (List.suffix_cons n _))
  last := ha.last
  clear _ hp := h.clear hc hp
  untouched _ hp := h.untouched hc ha hp

end

/-! ### Either order -/

/-- **Comparisons that have nothing to do with each other** come to the same in either order: each
of them to the same verdict or error, and both together to the same files. -/
theorem same_in_either_order {w : Writer} {a b : Case} {r : Run} (h : Unrelated w a b r.files)
    (ha : a.Prepared w r.files) (hb : b.Prepared w r.files) :
    outcome (a.compare w (endOf (b.compare w r))) = outcome (a.compare w r) ∧
    outcome (b.compare w (endOf (a.compare w r))) = outcome (b.compare w r) ∧
    Same (endOf (b.compare w (endOf (a.compare w r)))).files
      (endOf (a.compare w (endOf (b.compare w r)))).files := by
  have hA := h.left.changesOnly r
  have hB := h.right.changesOnly r
  -- each case runs abreast in the files that were there and in those that the other one left
  have hkeepsA := (h.beside hB ha).compare_keeps h.left.compared h.left.wordless r
    (endOf (b.compare w r)) hB.aheadBy
  have hkeepsB := (h.symm.beside hA hb).compare_keeps h.right.compared h.right.wordless r
    (endOf (a.compare w r)) hA.aheadBy
  refine ⟨hkeepsA.outcome_eq, hkeepsB.outcome_eq, ?_⟩
  have hdiamond : Diamond (a.artifacts w) (b.artifacts w) (w.artifactDir a.test).ancestors
      (w.artifactDir b.test).ancestors r.files _ _ _ _ :=
    ⟨hA, hB, h.left.changesOnly _, h.right.changesOnly _, hkeepsA.endOf, hkeepsB.endOf⟩
  refine hdiamond.same (fun p hp q hq he => ?_) (fun p hp q hq he => ?_) fun p hp q hq he => ?_
  · exact (h.apart p hp q hq).1 (he ▸ List.suffix_rfl)
  · refine h.not_above hp (he ▸ ?_)
    exact place_of_mem_ancestors (h.writer.artifactDir b.test) hq r.files
  · refine h.symm.not_above hp (he ▸ ?_)
    exact place_of_mem_ancestors (h.writer.artifactDir a.test) hq r.files

/-- A writer whose tests are in `LayoutTests`, with their baselines. -/
def Writer.into (outputDir : String) : Writer :=
  ⟨"linux", .ofString outputDir, .ofDirectory (.ofString "LayoutTests")⟩

/-- A text that is compared and nothing else. -/
def Case.text (test : Path) (output : Bytes) : Case := ⟨.text, test, output, .plain⟩

/-- An image that is compared by the checksum that its driver gives. -/
def Case.checksum (test : Path) (checksum : String) : Case :=
  ⟨.checksum, test, [], ⟨false, none, some checksum, false, false⟩⟩

/-- A run in which no file is there. -/
def Run.fresh : Run := .begin .empty .empty (.scripted [] [])

/-- A text and an image that both fail, in a run in which no file is there. -/
theorem first_comparisons_in_either_order :
    let w := Writer.into "out"
    let a := Case.text (.ofString "LayoutTests/a.html") [97]
    let b := Case.checksum (.ofString "LayoutTests/d/b.html") "ab"
    outcome (a.compare w (endOf (b.compare w .fresh))) = outcome (a.compare w .fresh) ∧
    outcome (b.compare w (endOf (a.compare w .fresh))) = outcome (b.compare w .fresh) ∧
    Same (endOf (b.compare w (endOf (a.compare w .fresh)))).files
      (endOf (a.compare w (endOf (b.compare w .fresh)))).files :=
  same_in_either_order
    ⟨⟨by decide +kernel, by decide +kernel, by decide +kernel⟩,
      ⟨rfl, rfl, by decide +kernel, by decide +kernel, by decide +kernel⟩,
      ⟨rfl, rfl, by decide +kernel, by decide +kernel, by decide +kernel⟩, by decide +kernel⟩
    ⟨by decide +kernel, Or.inr (by decide +kernel)⟩
    ⟨by decide +kernel, Or.inr (by decide +kernel)⟩

/-! ### When the order matters -/

/-- A test whose baseline would have a name that is too long for a directory. -/
def longTest : Path :=
  ⟨Utf8.encode "LayoutTests/" ++ List.replicate 250 110 ++ Utf8.encode ".html"⟩

/-- **The order matters** to comparisons that have nothing to do with each other when the output
directory is not there and

* its path ends in `.`: only the directories of other tests can be made then;
* a name that is looked for on the way to it is too long: that is no fault until the directory is
  there that it is looked for in;
* it is where a baseline is looked for: that is then a directory, and cannot be read. -/
theorem not_same_in_every_order :
    (let w := Writer.into "results/."
      let a := Case.text (.ofString "LayoutTests/a.html") [120]
      let b := Case.text (.ofString "LayoutTests/d/b.html") [120]
      Unrelated w a b .empty ∧
        outcome (a.compare w (endOf (b.compare w .fresh))) ≠ outcome (a.compare w .fresh)) ∧
    (let w : Writer := ⟨"linux", .ofString "bl/linux/results",
        (Checkout.ofDirectory (.ofString "LayoutTests")).withBaselineDir (.ofString "bl")⟩
      let a := Case.text longTest []
      let b := Case.text (.ofString "LayoutTests/b.html") [120]
      Unrelated w a b .empty ∧
        outcome (a.compare w (endOf (b.compare w .fresh))) ≠ outcome (a.compare w .fresh)) ∧
    (let w := Writer.into "LayoutTests/platform/linux/a-expected.txt"
      let a := Case.text (.ofString "LayoutTests/a.html") []
      let b := Case.text (.ofString "LayoutTests/b.html") [120]
      Unrelated w a b .empty ∧
        outcome (a.compare w (endOf (b.compare w .fresh))) ≠ outcome (a.compare w .fresh)) := by
  refine ⟨⟨⟨⟨?_, ?_, ?_⟩, ⟨rfl, rfl, ?_, ?_, ?_⟩, ⟨rfl, rfl, ?_, ?_, ?_⟩, ?_⟩, outcome_ne ?_⟩,
    ⟨⟨⟨?_, ?_, ?_⟩, ⟨rfl, rfl, ?_, ?_, ?_⟩, ⟨rfl, rfl, ?_, ?_, ?_⟩, ?_⟩, outcome_ne ?_⟩,
    ⟨⟨?_, ?_, ?_⟩, ⟨rfl, rfl, ?_, ?_, ?_⟩, ⟨rfl, rfl, ?_, ?_, ?_⟩, ?_⟩, outcome_ne ?_⟩ <;>
  decide +kernel

end Baseline
