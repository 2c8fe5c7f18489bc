import Baseline.Comparison
import Baseline.Proofs.Comparison.Checksum
import Baseline.Proofs.Comparison.Text

/-!
# What a comparison changes

Comparing writes artifacts and never a baseline; promoting writes baselines and
never an artifact.  Both hold however the comparison ends, of both kinds of
comparison, in every tree and for every path of a test (`frame_of_compare`).
Unless a word diff is wanted no tool is called, and all of it is file work (`compare_fileWork`).

* `Compared`: the artifacts that may differ, where they are, and that a pass
  changes nothing.
* `Promoted`: the baselines that may differ, and where they are.
-/

namespace Baseline.Engine

open Action

/-- What follows a test's name in the artifacts of a kind of comparison. -/
def artifactMarks : Engine → List String
  | .text => Writer.resultMarks "" TextComparison.extension
  | .checksum =>
    [ChecksumComparison.extension, ChecksumComparison.imageExtension].flatMap fun suffix =>
      ["" ++ Writer.actualMark ++ suffix, "" ++ Writer.expectedMark ++ suffix]

/-- The artifacts of a kind of comparison. -/
def artifactPaths (e : Engine) (w : Writer) (test : Path) : List Path :=
  e.artifactMarks.map (w.artifactPath test)

/-- The extensions of the baselines of a kind of comparison. -/
def extensions : Engine → List String
  | .text => [TextComparison.extension]
  | .checksum => [ChecksumComparison.extension, ChecksumComparison.imageExtension]

/-- The baselines that a kind of comparison promotes to. -/
def baselinePaths (e : Engine) (w : Writer) (test : Path) : List Path :=
  e.extensions.map (w.baselinePath test)

theorem mem_artifactPaths_checksum (w : Writer) (test : Path) :
    ∀ suffix ∈ [ChecksumComparison.extension, ChecksumComparison.imageExtension],
      w.actualPath test "" suffix ∈ artifactPaths .checksum w test ∧
        w.expectedPath test "" suffix ∈ artifactPaths .checksum w test := by
  intro suffix hx
  simp only [artifactPaths, artifactMarks, List.mem_map, List.mem_flatMap]
  exact ⟨⟨_, ⟨suffix, hx, by simp⟩, rfl⟩, ⟨_, ⟨suffix, hx, by simp⟩, rfl⟩⟩

/-- Whether a kind of comparison may call the word-diff tool. -/
def callsTool : Engine → Request → Bool
  | .text, request => !request.newBaseline && request.wordDiff
  | .checksum, _ => false

/-- What comparing may change on the way from the run `r` to a result. -/
structure Compared (e : Engine) (w : Writer) (test : Path) (r : Run)
    (result : EStateM.Result RunError Run Verdict) : Prop where
  /-- Only the artifacts may differ, only their directory and the missing ones above it may be
  new, and nothing goes away. -/
  changes : r.files.ChangesOnly (e.artifactPaths w test) (w.artifactDir test).ancestors
    (endOf result).files
  /-- The artifacts are directly inside the directory for the test under the output directory. -/
  inside : ∀ mark ∈ e.artifactMarks, r.files.place (w.artifactPath test mark) =
    (w.artifactStem test ++ Utf8.encode mark) ::
      ((w.checkout.relativeNames test).dropLast.reverse ++ r.files.place w.outputDir)
  /-- A pass changes nothing, and so does an image whose checksum is not known. -/
  unchanged : ∀ verdict r', result = .ok verdict r' →
    verdict = [] ∨ verdict = [.missingActualChecksum] → r'.files = r.files

/-- What promoting may change on the way from the run `r` to a result. -/
structure Promoted (e : Engine) (w : Writer) (test : Path) (r : Run)
    (result : EStateM.Result RunError Run Verdict) : Prop where
  /-- Only the platform's baselines of the test may differ, only their directory and the missing
  ones above it may be new, and nothing goes away. -/
  changes : r.files.ChangesOnly (e.baselinePaths w test)
    (w.baselineDir test).ancestors (endOf result).files
  /-- The baselines are directly inside the directory for the test under the platform's. -/
  inside : ∀ extension ∈ e.extensions,
    r.files.place (w.baselinePath test extension) =
      Checkout.expectedName test extension ::
        ((w.checkout.relativeNames test).dropLast.reverse ++
          r.files.place (w.checkout.platformRoot w.platform))
  /-- No artifact is written, unless its place is that of a baseline. -/
  artifacts : ∀ p ∈ e.artifactPaths w test,
    (∀ b ∈ e.baselinePaths w test, r.files.place b ≠ r.files.place p) →
      (endOf result).files.content? (r.files.place p) = r.files.content? (r.files.place p)

/-- What follows a test's name starts with a dash, and it is part of one name. -/
theorem dash_mem_of_mark {e : Engine} {mark : String} (h : mark ∈ e.artifactMarks) :
    slash ∉ Utf8.encode mark ∧ dash ∈ Utf8.encode mark := by
  cases e with
  | text => exact ⟨Writer.no_slash_resultMarks (by decide) (by decide) h,
      Writer.dash_mem_resultMarks h⟩
  | checksum =>
    revert mark
    decide

theorem place_of_mark {e : Engine} {mark : String} (h : mark ∈ e.artifactMarks) (w : Writer)
    (test : Path) (t : FileTree) : t.place (w.artifactPath test mark) =
      (w.artifactStem test ++ Utf8.encode mark) ::
        ((w.checkout.relativeNames test).dropLast.reverse ++ t.place w.outputDir) := by
  obtain ⟨hslash, hdash⟩ := dash_mem_of_mark h
  rw [w.place_artifactPath test hslash hdash, w.place_artifactDir]

theorem no_slash_of_extension {e : Engine} {extension : String} (h : extension ∈ e.extensions) :
    '/' ∉ extension.toList := by
  cases e <;> revert extension <;> decide

theorem place_of_extension {e : Engine} {extension : String} (h : extension ∈ e.extensions)
    (w : Writer) (test : Path) (t : FileTree) :
    t.place (w.baselinePath test extension) =
      Checkout.expectedName test extension ::
        ((w.checkout.relativeNames test).dropLast.reverse ++
          t.place (w.checkout.platformRoot w.platform)) := by
  rw [w.place_baselinePath test (no_slash_of_extension h), w.place_baselineDir]

/-- The files that a comparison may write: the baselines when it promotes, else the artifacts. -/
def writtenPaths (e : Engine) (w : Writer) (test : Path) (request : Request) : List Path :=
  if request.newBaseline then e.baselinePaths w test else e.artifactPaths w test

/-- The directory that they are in. -/
def writtenDir (w : Writer) (test : Path) (request : Request) : Path :=
  if request.newBaseline then w.baselineDir test else w.artifactDir test

/-- Promoting is file work. -/
theorem promote_fileWork (e : Engine) {w : Writer} {test : Path} {request : Request}
    (output : Bytes) (h : request.newBaseline = true) :
    Leads (Run.FileWork (e.baselinePaths w test) (w.baselineDir test).ancestors)
      (e.compare w test output request) := by
  cases e with
  | text =>
    exact TextComparison.promote_fileWork h (List.mem_map_of_mem (by simp [extensions]))
      fun _ hq => hq
  | checksum =>
    exact ChecksumComparison.promote_fileWork h (fun _ hx => List.mem_map_of_mem hx)
      fun _ hq => hq

/-- **A comparison that calls no tool is file work**, of both kinds and both ways. -/
theorem compare_fileWork (e : Engine) {w : Writer} {test : Path} {request : Request}
    (output : Bytes) (h : e.callsTool request = false) :
    Leads (Run.FileWork (e.writtenPaths w test request) (writtenDir w test request).ancestors)
      (e.compare w test output request) := by
  unfold writtenPaths writtenDir
  cases hnew : request.newBaseline with
  | true => exact e.promote_fileWork output hnew
  | false =>
    cases e with
    | text =>
      have hwords : request.wordDiff = false := by simpa [callsTool, hnew] using h
      exact TextComparison.compare_fileWork hnew hwords (fun _ hp => List.mem_append_left _ hp)
        fun _ hq => hq
    | checksum =>
      exact ChecksumComparison.compare_fileWork hnew (mem_artifactPaths_checksum w test)
        fun _ hq => hq

/-- **Comparing leaves baselines alone, promoting leaves results alone**, however they end, if the
tool that is called for a word diff spares the files. -/
theorem frame_of_compare (e : Engine) (w : Writer) (test : Path) (output : Bytes)
    (request : Request) (r : Run)
    (hs : w.ToolSparesResults test "" TextComparison.extension (e.callsTool request) r) :
    (request.newBaseline = false → e.Compared w test r (e.compare w test output request r)) ∧
    (request.newBaseline = true → e.Promoted w test r (e.compare w test output request r)) := by
  refine ⟨fun h => ⟨?_, fun mark hm => place_of_mark hm w test r.files, ?_⟩, fun h => ?_⟩
  · cases e with
    | text =>
      refine TextComparison.changesOnly_of_compare h fun hwords => hs ?_
      simp [callsTool, h, hwords]
    | checksum =>
      exact (ChecksumComparison.compare_fileWork h (mem_artifactPaths_checksum w test)
        (fun _ hq => hq) r).files
  · intro verdict r' hr hv
    cases e with
    | text => exact (TextComparison.looks_of_compare h hr hv).files
    | checksum => exact (ChecksumComparison.looks_of_compare h hr hv).files
  · have hc : r.files.ChangesOnly (e.baselinePaths w test) (w.baselineDir test).ancestors
        (endOf (e.compare w test output request r)).files := (e.promote_fileWork output h r).files
    exact ⟨hc, fun _ hx => place_of_extension hx w test r.files, fun _ _ hp => hc.content? hp⟩

/-- A text that is compared where a word diff is wanted and an image that is promoted, in a tree
that holds nothing. -/
theorem frame_of_first_compare :
    Compared .text ⟨"linux", .ofString "out", .ofDirectory (.ofString "tests")⟩
      (.ofString "tests/a.html") (.begin .empty .empty (.scripted [] []))
      (Engine.text.compare ⟨"linux", .ofString "out", .ofDirectory (.ofString "tests")⟩
        (.ofString "tests/a.html") [97] ⟨false, none, none, true, false⟩
        (.begin .empty .empty (.scripted [] []))) ∧
    Promoted .checksum ⟨"linux", .ofString "out", .ofDirectory (.ofString "tests")⟩
      (.ofString "tests/a.html") (.begin .empty .empty (.scripted [] []))
      (Engine.checksum.compare ⟨"linux", .ofString "out", .ofDirectory (.ofString "tests")⟩
        (.ofString "tests/a.html") [] ⟨true, none, some "ab", false, false⟩
        (.begin .empty .empty (.scripted [] []))) :=
  ⟨(frame_of_compare .text _ _ _ ⟨false, none, none, true, false⟩ _
      (fun _ => Writer.toolSpares_scripted rfl)).1 rfl,
    (frame_of_compare .checksum _ _ _ ⟨true, none, some "ab", false, false⟩ _
      (fun _ => Writer.toolSpares_scripted rfl)).2 rfl⟩

end Baseline.Engine
