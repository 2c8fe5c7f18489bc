import Mathlib.Algebra.GroupWithZero.Nat
import Baseline.Proofs.CommandLine.Compare
import Baseline.Proofs.Comparison.Contents
import Baseline.Proofs.Diff.Patch

/-!
# Reports line by line

A failure is reported on a line of its own, with its message behind the name of the test.  A
message is on one line unless it tells of two checksums and one of these is not
(`oneLine_message`).  Trimming takes a line break off the ends of a checksum and leaves one
inside of it, so the checksum on record may have one, and so may the one that the driver gives; a
digest has none (`oneLine_of_compare`).  Every line feed in a message is one more line of the
report (`count_verdictLines`), which then has more lines than there are failures
(`not_always_oneLine`).
-/

namespace Baseline

open Action Diff

/-! ### Messages -/

theorem oneLine_append {s t : String} : OneLine (s ++ t) ↔ OneLine s ∧ OneLine t := by
  unfold OneLine
  rw [String.toList_append]
  exact List.forall_mem_append

theorem oneLine_checksumMismatch {expected actual : String} :
    OneLine (Failure.checksumMismatch expected actual).message ↔
      OneLine expected ∧ OneLine actual := by
  have hfront : OneLine "image checksum mismatch: expected " := by decide +kernel
  have hbetween : OneLine ", got " := by decide
  constructor
  · intro h
    obtain ⟨hexpected, hactual⟩ := oneLine_append.mp h
    exact ⟨(oneLine_append.mp (oneLine_append.mp hexpected).1).2, hactual⟩
  · rintro ⟨hexpected, hactual⟩
    exact ((hfront.append hexpected).append hbetween).append hactual

/-- **A message is on one line** when the checksums that it tells of are. -/
theorem oneLine_message {f : Failure} (h : ∀ expected actual,
    f = .checksumMismatch expected actual → OneLine expected ∧ OneLine actual) :
    OneLine f.message := by
  cases f with
  | textMismatch wordDiff => cases wordDiff <;> decide +kernel
  | missingText => decide +kernel
  | missingChecksum => decide +kernel
  | missingImage => decide +kernel
  | missingActualChecksum => decide +kernel
  | checksumMismatch expected actual => exact oneLine_checksumMismatch.mpr (h expected actual rfl)

theorem oneLine_toHex (data : Bytes) : OneLine data.toHex := by
  intro c hc
  have hblank := Bytes.not_blank_of_mem_toHex hc
  constructor <;> (rintro rfl; revert hblank; decide)

/-! ### The messages of a comparison -/

variable {w : Writer} {test : Path} {output : Bytes} {request : Request} {r r' : Run}
  {verdict : Verdict}

/-- A failure that tells of a checksum with a line break inside of it, the one on record or the one
that is given. -/
inductive Broken (w : Writer) (test : Path) (request : Request) (t : FileTree) : Failure → Prop
  | recorded {data : Bytes} (actual : String)
    (h : t.CountsAs (w.expectedBaseline t test ChecksumComparison.extension) data)
    (hbreak : ¬ OneLine (Text.trim (Utf8.decodeLossy data))) :
    Broken w test request t (.checksumMismatch (Text.trim (Utf8.decodeLossy data)) actual)
  | given {text : String} (expected : String) (h : request.checksum = some text)
    (hbreak : ¬ OneLine (Text.trim text)) :
    Broken w test request t (.checksumMismatch expected (Text.trim text))

theorem Broken.not_oneLine {t : FileTree} {f : Failure} (h : Broken w test request t f) :
    ¬ OneLine f.message := by
  cases h with
  | recorded actual h hbreak => exact fun hone => hbreak (oneLine_checksumMismatch.mp hone).1
  | given expected h hbreak => exact fun hone => hbreak (oneLine_checksumMismatch.mp hone).2

/-- No failure of a text is about checksums. -/
theorem TextComparison.oneLine_failures
    (h : TextComparison.compare w test output request r = .ok verdict r') :
    ∀ f ∈ verdict, OneLine f.message := by
  cases hnew : request.newBaseline with
  | true =>
    rw [TextComparison.compare_of_promoting hnew] at h
    obtain ⟨_, m, -, hdone⟩ := bind_eq_ok.mp h
    obtain ⟨rfl, -⟩ : [] = verdict ∧ m = r' := by simpa using hdone
    exact fun f hf => absurd hf List.not_mem_nil
  | false =>
    obtain ⟨expected, -, ⟨-, rfl, -⟩ | ⟨-, rfl, -⟩⟩ := (TextComparison.compare_eq_ok hnew).mp h
    · exact fun f hf => absurd hf List.not_mem_nil
    · intro f hf
      obtain rfl := List.mem_singleton.mp hf
      refine oneLine_message fun _ _ heq => ?_
      rw [TextComparison.failure] at heq
      split at heq <;> cases heq

theorem ChecksumComparison.broken_of_compare
    (h : ChecksumComparison.compare w test request r = .ok verdict r') {f : Failure}
    (hf : f ∈ verdict) (hbreak : ¬ OneLine f.message) : Broken w test request r.files f := by
  cases hnew : request.newBaseline with
  | true =>
    rw [ChecksumComparison.compare_of_promoting hnew] at h
    obtain ⟨found, m, -, hdone⟩ := bind_eq_ok.mp h
    cases found with
    | none =>
      obtain ⟨rfl, -⟩ : [Failure.missingActualChecksum] = verdict ∧ m = r' := by simpa using hdone
      obtain rfl := List.mem_singleton.mp hf
      exact absurd (by decide +kernel) hbreak
    | some actual =>
      obtain ⟨_, m', -, hdone⟩ := bind_eq_ok.mp hdone
      obtain ⟨rfl, -⟩ : [] = verdict ∧ m' = r' := by simpa using hdone
      exact absurd hf List.not_mem_nil
  | false =>
    obtain ⟨found, hmeasured, hjudged⟩ := ChecksumComparison.judged_of_compare hnew h
    cases found with
    | none =>
      obtain rfl := List.mem_singleton.mp (hjudged.absent rfl ▸ hf)
      exact absurd (by decide +kernel) hbreak
    | some actual =>
      obtain ⟨data, hcounts, hdecided, -⟩ := hjudged.decided actual rfl
      generalize hexpected : Text.trim (Utf8.decodeLossy data) = expected at hdecided
      generalize r.files.isFile _ = imageIsThere at hdecided
      cases hdecided with
      | pass => exact absurd hf List.not_mem_nil
      | missingImage | missingChecksum =>
        obtain rfl := List.mem_singleton.mp hf
        exact absurd (by decide +kernel) hbreak
      | mismatch =>
        obtain rfl := List.mem_singleton.mp hf
        by_cases hone : OneLine expected
        · cases hmeasured with
          | given htext =>
            exact .given expected htext fun hactual =>
              hbreak (oneLine_checksumMismatch.mpr ⟨hone, hactual⟩)
          | image =>
            exact absurd (oneLine_checksumMismatch.mpr ⟨hone, oneLine_toHex _⟩) hbreak
        · subst hexpected
          exact .recorded actual hcounts hone

/-! ### The report -/

namespace CommandLine

theorem count_joinLines (ls : List String) : (joinLines ls).toList.count '\n' =
    ls.length + (ls.map fun l => l.toList.count '\n').sum := by
  induction ls with
  | nil => rfl
  | cons l ls ih =>
    have hfirst : (l ++ "\n").toList.count '\n' = l.toList.count '\n' + 1 := by
      rw [String.toList_append, List.count_append]
      rfl
    rw [joinLines, List.map_cons, String.join_cons, String.toList_append, List.count_append, hfirst,
      ← joinLines, ih, List.length_cons, List.map_cons, List.sum_cons]
    omega

/-- **The lines of a report** that a test has failed: one for each failure, and one more for each
line feed in a message. -/
theorem count_verdictLines {name : Path} (hname : '\n' ∉ name.text.toList) (hne : verdict ≠ []) :
    (joinLines (verdictLines name verdict)).toList.count '\n' =
      verdict.length + (verdict.map fun f => f.message.toList.count '\n').sum := by
  have hline : ∀ f ∈ verdict, ("FAIL " ++ name.text ++ ": " ++ f.message).toList.count '\n' =
      f.message.toList.count '\n' := by
    intro f _
    simp only [String.toList_append, List.count_append, List.count_eq_zero.mpr hname]
    rw [show "FAIL ".toList.count '\n' = 0 from rfl, show ": ".toList.count '\n' = 0 from rfl]
    omega
  have hfails : verdict.passes = false := by simpa [Verdict.passes] using hne
  rw [count_joinLines, verdictLines, hfails, if_neg Bool.false_ne_true, List.length_map,
    List.map_map]
  exact congrArg (verdict.length + List.sum ·) (List.map_congr_left hline)

end CommandLine

/-- **What is reported on one line.**  The message of a failure is, unless it tells of a checksum
with a line break inside of it, on record or given; and the report of a test that has failed has a
line for each failure, and one more for each line feed in a message. -/
theorem oneLine_of_compare {engine : Engine}
    (h : engine.compare w test output request r = .ok verdict r') :
    (∀ f ∈ verdict, OneLine f.message ↔ ¬ (engine = .checksum ∧ Broken w test request r.files f)) ∧
      ∀ name : Path, '\n' ∉ name.text.toList → verdict ≠ [] →
        (CommandLine.joinLines (CommandLine.verdictLines name verdict)).toList.count '\n' =
          verdict.length + (verdict.map fun f => f.message.toList.count '\n').sum := by
  refine ⟨fun f hf => ⟨fun hone hbroken => hbroken.2.not_oneLine hone, fun hbroken => ?_⟩,
    fun name hname hne => CommandLine.count_verdictLines hname hne⟩
  cases engine with
  | text => exact TextComparison.oneLine_failures h f hf
  | checksum =>
    by_contra hbreak
    exact hbroken ⟨rfl, ChecksumComparison.broken_of_compare h hf hbreak⟩

/-- The comparison of a test that gives a checksum and no image. -/
def comparingChecksum (checksum : String) : Action Verdict :=
  Engine.checksum.compare ⟨"linux", .ofString "out", .ofDirectory (.ofString "tests")⟩
    (.ofString "tests/a.html") [] ⟨false, none, some checksum, false, false⟩

/-- A checksum that is given with a line feed inside of it: one failure on two lines. -/
theorem oneLine_of_given_checksum :
    ∃ r', comparingChecksum "c\nd\n" (ChecksumComparison.withRecord "ab") =
        .ok [.checksumMismatch "ab" "c\nd"] r' ∧
      ¬ OneLine (Failure.checksumMismatch "ab" "c\nd").message ∧
      (CommandLine.joinLines (CommandLine.verdictLines (.ofString "a.html")
        [.checksumMismatch "ab" "c\nd"])).toList.count '\n' = 2 := by
  obtain ⟨r', hr⟩ : ∃ r', comparingChecksum "c\nd\n" (ChecksumComparison.withRecord "ab") =
      .ok [.checksumMismatch "ab" "c\nd"] r' := exists_of_answer? (by decide +kernel)
  obtain ⟨hone, hlines⟩ := oneLine_of_compare hr
  have hgiven : Broken ⟨"linux", .ofString "out", .ofDirectory (.ofString "tests")⟩
      (.ofString "tests/a.html") ⟨false, none, some "c\nd\n", false, false⟩
      (ChecksumComparison.withRecord "ab").files (.checksumMismatch "ab" (Text.trim "c\nd\n")) :=
    .given "ab" rfl (by decide +kernel)
  have hbroken := mt (hone _ (List.mem_singleton_self _)).mp (not_not_intro ⟨rfl, hgiven⟩)
  refine ⟨r', hr, hbroken, ?_⟩
  rw [hlines (.ofString "a.html") (by decide +kernel) (List.cons_ne_nil _ _)]
  decide +kernel

/-- **Not every message is on one line**: a checksum baseline with a line feed inside is told as it
is, and the report of the one failure has two lines. -/
theorem not_always_oneLine :
    (¬ ∀ (engine : Engine) (w : Writer) (test : Path) (output : Bytes) (request : Request)
      (r r' : Run) (verdict : Verdict), engine.compare w test output request r = .ok verdict r' →
      ∀ f ∈ verdict, OneLine f.message) ∧
    (CommandLine.run (["compare", "--platform", "linux", "--layout-tests", "tests", "--output-dir",
        "out", "--engine", "checksum", "--hash", "cd", "a.html"].map Utf8.encode)
      (ChecksumComparison.recordOf "x\ny") .empty (.scripted [] [])
      LogSession.someMoment.1).output =
        Utf8.encode "FAIL a.html: image checksum mismatch: expected x\ny, got cd\n" := by
  refine ⟨fun h => ?_, by decide +kernel⟩
  obtain ⟨r', hr⟩ : ∃ r', comparingChecksum "cd" (ChecksumComparison.withRecord "x\ny") =
      .ok [.checksumMismatch "x\ny" "cd"] r' := exists_of_answer? (by decide +kernel)
  exact absurd (h _ _ _ _ _ _ _ _ hr _ (List.mem_singleton_self _)) (by decide +kernel)

end Baseline
