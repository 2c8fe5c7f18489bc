import Baseline.Proofs.Artifact.Results
import Baseline.Proofs.Path.Text

/-!
# What the tool is called on

A call of `writeResults` that calls the tool calls it once, on the artifacts it has just
written: at that moment the files at their paths hold the two sides byte for byte
(`invoked_of_calls_ne`).

The paths reach the tool as text.  So it is given a path byte for byte exactly when the path
is valid UTF-8, which it is when the output directory and the test are; else the tool is
given the name of another file (`not_always_exact`).
-/

namespace Baseline

open Action WordDiff Path

namespace Action

variable {α β : Type} {x y : Action α}

theorem bind_of_eq {f : α → Action β} {r : Run} (h : x r = y r) : (x >>= f) r = (y >>= f) r := by
  show EStateM.bind x f r = EStateM.bind y f r
  unfold EStateM.bind
  rw [h]

theorem endOf_bind_pure (b : β) (r : Run) :
    endOf ((x >>= fun _ => (pure b : Action β)) r) = endOf (x r) := by
  cases h : x r with
  | ok a m => rw [bind_of_ok h]; rfl
  | error e m => rw [bind_of_error h]; rfl

end Action

namespace Writer

/-! ### The stage from the call on -/

/-- What comes after a call of the tool, by its answer. -/
def settle (tool : Path) : Except Fault Bytes → Action Page
  | .ok output => return .ofOutput output
  | .error fault =>
    match classify fault with
    | .unavailable => do
      if ← Run.giveUpWordDiffs then Run.report (.toolUnavailable tool fault)
      return .notInstalled
    | .transient => do
      Run.report (.spawnFailed tool fault)
      return .concurrentFailure
    | .fatal => throw (.tool tool fault)

/-- A tool that is worth calling is called, and the rest hangs on its answer. -/
theorem wordDiffPage_of_available (w : Writer) (expected actual : Path) {r : Run}
    (h : r.availability.isAvailable = true) :
    w.wordDiffPage expected actual r =
      (Run.call (w.toolCall r expected actual) >>= settle (w.checkout.tool r.environment)) r := by
  unfold wordDiffPage
  rw [bind_of_ok (get_apply r), if_neg (by simp [h])]
  rfl

theorem calls_endOf_wordDiffPage (w : Writer) (expected actual : Path) (r : Run) :
    (endOf (w.wordDiffPage expected actual r)).calls =
      r.calls ++ if r.availability.isAvailable then [w.toolCall r expected actual] else [] := by
  rw [wordDiffPage_eq]
  split
  · split
    · rfl
    · split <;> rfl
  · exact (List.append_nil _).symm

/-- The rest of a call of `writeResults` that is about to call the tool. -/
def callAndFinish (w : Writer) (test : Path) (tag : String) (set : Artifacts) (c : Call) :
    Action Artifacts := do
  let answer ← Run.call c
  let page ← settle c.program answer
  Run.write (w.wordDiffPath test tag) (Utf8.encode page.html)
  return set

variable {w : Writer} {test : Path} {tag extension : String} {actual expected : Option Bytes}
  {diffs : Diffs} {r : Run}

/-- What is left to do at the word-diff stage begins with the call. -/
theorem finish_of_available {stage : Run} (h : stage.availability.isAvailable = true)
    (set : Artifacts) :
    (do
      w.writeWordDiff test tag extension
      return set : Action Artifacts) stage =
      w.callAndFinish test tag set (w.toolCall stage (w.expectedPath test tag extension)
        (w.actualPath test tag extension)) stage := by
  unfold writeWordDiff callAndFinish
  rw [bind_assoc, bind_of_eq (w.wordDiffPage_of_available _ _ h), bind_assoc]
  rfl

/-- Only the word-diff stage calls the tool, and it does so once at most. -/
theorem calls_endOf_writeWordDiff (w : Writer) (test : Path) (tag extension : String)
    (stage : Run) :
    (endOf (w.writeWordDiff test tag extension stage)).calls =
      stage.calls ++ if stage.availability.isAvailable then
        [w.toolCall stage (w.expectedPath test tag extension) (w.actualPath test tag extension)]
      else [] := by
  rw [← calls_endOf_wordDiffPage]
  unfold writeWordDiff
  cases hpage : w.wordDiffPage (w.expectedPath test tag extension)
      (w.actualPath test tag extension) stage with
  | ok page m =>
    rw [bind_of_ok hpage]
    have hwrite : Leads (Run.FileWork [w.wordDiffPath test tag] [])
        (Run.write (w.wordDiffPath test tag) (Utf8.encode page.html)) :=
      Run.write_fileWork (List.mem_singleton_self _) _
    exact (hwrite m).calls
  | error e m =>
    rw [bind_of_error hpage]
    rfl

/-- **A call of `writeResults` that calls the tool** has got to the word-diff stage, and the tool is
still worth calling there. -/
theorem exists_stage_of_calls_ne
    (h : (endOf (w.writeResults test tag extension actual expected diffs r)).calls ≠ r.calls) :
    ∃ stage, w.writeTexts test tag extension actual expected diffs.lines r = .ok () stage ∧
      wantsWords actual expected diffs = true ∧ stage.availability.isAvailable = true := by
  have hwork := w.writeTexts_fileWork test tag extension actual expected diffs.lines
    (fun _ hp => hp) fun _ hq => hq
  rw [writeResults_eq] at h
  cases htexts : w.writeTexts test tag extension actual expected diffs.lines r with
  | error e m =>
    rw [bind_of_error htexts] at h
    exact absurd (hwork.of_error htexts).calls h
  | ok done stage =>
    have hcalls : stage.calls = r.calls := (hwork.of_ok htexts).calls
    rw [bind_of_ok htexts] at h
    refine ⟨stage, rfl, ?_⟩
    by_cases hwants : wantsWords actual expected diffs = true
    · refine ⟨hwants, ?_⟩
      by_contra hgone
      rw [if_pos hwants, endOf_bind_pure, calls_endOf_writeWordDiff, if_neg hgone,
        List.append_nil] at h
      exact h hcalls
    · rw [if_neg hwants] at h
      exact absurd hcalls h

/-! ### Paths as arguments -/

/-- **The artifacts of a test are text** when the output directory and the test are. -/
theorem isValid_artifactPath {modifier : String} (hm : slash ∉ Utf8.encode modifier)
    (hdir : Utf8.isValid w.outputDir.bytes = true) (htest : Utf8.isValid test.bytes = true) :
    Utf8.isValid (w.artifactPath test modifier).bytes = true := by
  have hnames : ∀ n ∈ w.checkout.relativeNames test, Utf8.isValid n = true := by
    intro n hn
    obtain ⟨through, hpart⟩ := Checkout.mem_parts_of_mem_relativeNames hn
    exact isValid_of_mem_parts htest hpart
  have hartifactDir : Utf8.isValid (w.artifactDir test).bytes = true := by
    unfold artifactDir
    rw [Checkout.parent?_relative]
    by_cases hnil : w.checkout.relativeNames test = []
    · rw [if_pos hnil]
      exact hdir
    · rw [if_neg hnil]
      have habove : ∀ n ∈ (w.checkout.relativeNames test).dropLast,
          n ∈ w.checkout.relativeNames test := fun _ hn => List.dropLast_subset _ hn
      have hjoin := join_eq (p := w.outputDir) (isAbsolute_ofNames fun n hn =>
        Checkout.isName_of_mem_relativeNames (habove n hn))
      show Utf8.isValid (w.outputDir.join _).bytes = true
      rw [hjoin]
      exact Utf8.isValid_append (isValid_opened hdir)
        (isValid_ofNames fun n hn => hnames n (habove n hn))
  have hstem : Utf8.isValid (w.artifactStem test) = true := by
    unfold artifactStem
    cases hlast : (w.checkout.relativeNames test).getLast? with
    | none => rfl
    | some n => exact isValid_bareName (hnames n (List.mem_of_getLast? hlast))
  rw [artifactPath_eq w test hm]
  exact Utf8.isValid_append (isValid_opened hartifactDir)
    (Utf8.isValid_append hstem (Utf8.isValid_encode modifier))

theorem isValid_sides (ht : '/' ∉ tag.toList) (he : '/' ∉ extension.toList)
    (hdir : Utf8.isValid w.outputDir.bytes = true) (htest : Utf8.isValid test.bytes = true) :
    ∀ p ∈ [w.expectedPath test tag extension, w.actualPath test tag extension],
      Utf8.isValid p.bytes = true := by
  have hmark : ∀ mark ∈ [actualMark, expectedMark],
      slash ∉ Utf8.encode (tag ++ mark ++ extension) := by
    intro mark hm
    refine no_slash_resultMarks ht he ?_
    simp only [List.mem_cons, List.not_mem_nil, or_false] at hm
    rcases hm with rfl | rfl <;> simp [resultMarks]
  intro p hp
  simp only [List.mem_cons, List.not_mem_nil, or_false] at hp
  rcases hp with rfl | rfl
  · exact isValid_artifactPath (hmark expectedMark (by simp)) hdir htest
  · exact isValid_artifactPath (hmark actualMark (by simp)) hdir htest

/-! ### The whole of it -/

/-- The tool is called on the artifacts of a test in the run `stage`, on the way from the run `r`. -/
structure Invoked (w : Writer) (test : Path) (tag extension : String)
    (actual expected : Option Bytes) (diffs : Diffs) (r stage : Run) (c : Call) (a e : Bytes) :
    Prop where
  sides : BothSides actual expected a e
  /-- Nothing but the texts is written before. -/
  before : r.FileWork (w.textPaths test tag extension) (w.artifactDir test).ancestors stage
  /-- The call is what is done next, and its answer decides the rest. -/
  next : w.writeResults test tag extension actual expected diffs r =
    w.callAndFinish test tag (w.written test tag extension actual expected diffs) c stage
  /-- It is the only one. -/
  calls : (endOf (w.writeResults test tag extension actual expected diffs r)).calls =
    r.calls ++ [c]
  /-- The tool is given the names of the artifacts, after what it marks words with. -/
  arguments : c.arguments =
    ["--start-delete=##WDIFF_DEL##", "--end-delete=##WDIFF_END##",
      "--start-insert=##WDIFF_ADD##", "--end-insert=##WDIFF_END##",
      (w.expectedPath test tag extension).text, (w.actualPath test tag extension).text]
  /-- The artifacts hold the two sides. -/
  expected_read : stage.files.readFile (w.expectedPath test tag extension) = .ok e
  actual_read : stage.files.readFile (w.actualPath test tag extension) = .ok a
  /-- A name is that of the artifact byte for byte exactly when the artifact's path is text. -/
  exact_iff : ∀ p ∈ [w.expectedPath test tag extension, w.actualPath test tag extension],
    Utf8.encode p.text = p.bytes ↔ Utf8.isValid p.bytes = true
  /-- It is text when the output directory and the test are. -/
  valid : Utf8.isValid w.outputDir.bytes = true → Utf8.isValid test.bytes = true →
    ∀ p ∈ [w.expectedPath test tag extension, w.actualPath test tag extension],
      Utf8.isValid p.bytes = true

/-- **The tool is called on what was just written**, under the names of the artifacts as text. -/
theorem invoked_of_calls_ne (ht : '/' ∉ tag.toList) (he : '/' ∉ extension.toList)
    (h : (endOf (w.writeResults test tag extension actual expected diffs r)).calls ≠ r.calls) :
    ∃ stage c a e, w.Invoked test tag extension actual expected diffs r stage c a e := by
  obtain ⟨stage, htexts, hwants, havailable⟩ := exists_stage_of_calls_ne h
  obtain ⟨⟨hactual, hexpected⟩, -⟩ : ((present actual).isSome = true ∧
      (present expected).isSome = true) ∧ diffs.words = true := by
    simpa [wantsWords, Bool.and_eq_true] using hwants
  obtain ⟨a, ha⟩ := Option.isSome_iff_exists.mp hactual
  obtain ⟨e, hx⟩ := Option.isSome_iff_exists.mp hexpected
  have hwork : r.FileWork (w.textPaths test tag extension) (w.artifactDir test).ancestors stage :=
    (w.writeTexts_fileWork test tag extension actual expected diffs.lines
      (fun _ hp => mem_textPaths_of_texts hp) fun _ hq => hq).of_ok htexts
  have hread := readFile_texts ht he htexts
  have heq := w.writeResults_eq test tag extension actual expected diffs
  refine ⟨stage, w.toolCall stage (w.expectedPath test tag extension)
    (w.actualPath test tag extension), a, e,
    { sides := bothSides_iff.mpr ⟨ha, hx⟩, before := hwork, next := ?_, calls := ?_,
      arguments := rfl, expected_read := ?_, actual_read := ?_,
      exact_iff := fun p _ => encode_text_iff p, valid := isValid_sides ht he }⟩
  · rw [heq, bind_of_ok htexts, if_pos hwants]
    exact finish_of_available havailable _
  · rw [heq, bind_of_ok htexts, if_pos hwants, endOf_bind_pure, calls_endOf_writeWordDiff,
      if_pos havailable, hwork.calls]
  · exact hread _ (w.expected_mem_texts test tag extension hx _)
  · exact hread _ (w.actual_mem_texts test tag extension ha _)

/-- A first call of the tool, on two artifacts whose names are text. -/
theorem invoked_of_first_call :
    '/' ∉ "".toList ∧ '/' ∉ ".txt".toList ∧
      ∃ stage c, Invoked ⟨"linux", .ofString "out", .ofDirectory (.ofString "tests")⟩
        (.ofString "tests/a.html") "" ".txt" (some [97]) (some [98]) (.standard true)
        (.begin .empty .empty (.scripted [] [])) stage c [97] [98] ∧
        c.arguments.drop 4 = ["out/a-expected.txt", "out/a-actual.txt"] := by
  have hcalls : (endOf (writeResults
      ⟨"linux", .ofString "out", .ofDirectory (.ofString "tests")⟩ (.ofString "tests/a.html") ""
      ".txt" (some [97]) (some [98]) (.standard true)
      (.begin .empty .empty (.scripted [] [])))).calls ≠ [] := by decide +kernel
  obtain ⟨stage, c, a, e, h⟩ := invoked_of_calls_ne (r := .begin .empty .empty (.scripted [] []))
    (by decide) (by decide) hcalls
  obtain rfl : [97] = a := Option.some.inj h.sides.actual_eq
  obtain rfl : [98] = e := Option.some.inj h.sides.expected_eq
  refine ⟨by decide, by decide, stage, c, h, ?_⟩
  rw [h.arguments]
  decide +kernel

/-- A test whose name has a byte that is no text. -/
def unreadableTest : Path := ⟨[116, 101, 115, 116, 115, 47, 97, 255, 46, 104, 116, 109, 108]⟩

/-- **The names that the tool is given are not always those of the artifacts**: what is no text in
them is replaced. -/
theorem not_always_exact :
    ¬ ∀ (w : Writer) (test : Path) (tag extension : String) (actual expected : Option Bytes)
      (diffs : Diffs) (r : Run) (c : Call), '/' ∉ tag.toList → '/' ∉ extension.toList →
      (endOf (w.writeResults test tag extension actual expected diffs r)).calls =
        r.calls ++ [c] →
      (c.arguments.drop 4).map Utf8.encode =
        [(w.expectedPath test tag extension).bytes, (w.actualPath test tag extension).bytes] := by
  intro h
  have hnames := h ⟨"linux", .ofString "out", .ofDirectory (.ofString "tests")⟩ unreadableTest ""
    ".txt" (some [97]) (some [98]) (.standard true) (.begin .empty .empty (.scripted [] []))
    ⟨.ofString "wdiff", WordDiff.arguments (.ofString "out/a\ufffd-expected.txt")
      (.ofString "out/a\ufffd-actual.txt")⟩ (by decide) (by decide) (by decide +kernel)
  revert hnames
  decide +kernel

end Writer

end Baseline
