import Baseline.Proofs.Artifact.Results
import Baseline.Proofs.Comparison.Images
import Baseline.Proofs.Comparison.Rerun
import Baseline.Proofs.Comparison.Shape
import Baseline.Proofs.FileTree.Append
import Baseline.Proofs.Sha256
import Baseline.Proofs.Text.Padding

/-!
# Contents decide on an image

The verdict on an image hangs on two texts and on whether an image baseline is there
(`Decided`).  The one text is the checksum that the driver gives, or else the digest of the image
(`Measured`); the other is the one on record.  A failure keeps both (`Kept`).

Both texts are trimmed, so blanks around the checksum that is given make no difference
(`compare_pad`).  Neither do blanks around the one on record: the files are of the same
shape with them, and every record reads as the same checksum (`Padded.recordedChecksum`), so the
comparison runs abreast with and without them (`compare_abreast`).  Only an image that is its own
checksum baseline has another digest then (`not_always_unchanged`).
-/

namespace Baseline.ChecksumComparison

open Action FileTree

variable {w : Writer} {test : Path} {request : Request} {r r' : Run} {t t' : FileTree}
  {found : Option String} {verdict : Verdict} {l : Location}

/-! ### The checksum of an image -/

/-- No checksum is given but blanks. -/
def GivenBlank (request : Request) : Prop :=
  ∀ text, request.checksum = some text → Text.trim text = ""

/-- The checksum of an image: the one that is given, without blanks around it, or else the digest
of the image in hexadecimal digits, or none. -/
inductive Measured (t : FileTree) (request : Request) : Option String → Prop
  | given {text : String} (h : request.checksum = some text) (hne : Text.trim text ≠ "") :
    Measured t request (some (Text.trim text))
  | image {image : Path} {data digest : Bytes} (hblank : GivenBlank request)
    (himage : request.image = some image) (hdata : t.readFile image = .ok data)
    (h : Sha256.IsDigest data digest) : Measured t request (some digest.toHex)
  | absent (hblank : GivenBlank request) (himage : request.image = none) :
    Measured t request none

theorem givenChecksum?_eq_some {checksum : String} : givenChecksum? request = some checksum ↔
    ∃ text, request.checksum = some text ∧ Text.trim text ≠ "" ∧ Text.trim text = checksum := by
  unfold givenChecksum?
  cases request.checksum with
  | none => simp
  | some text => simp [Option.filter_some, and_comm]

theorem givenChecksum?_eq_none : givenChecksum? request = none ↔ GivenBlank request := by
  unfold givenChecksum? GivenBlank
  cases request.checksum with
  | none => simp
  | some text => simp [Option.filter_eq_none_iff]

/-- **What is measured** is what a comparison starts from. -/
theorem measured_iff : Measured r.files request found ↔ actualChecksum request r = .ok found r := by
  rw [actualChecksum_eq_ok]
  constructor
  · intro h
    refine ⟨rfl, ?_⟩
    cases h with
    | given h hne => exact Or.inl ⟨_, givenChecksum?_eq_some.mpr ⟨_, h, hne, rfl⟩, rfl⟩
    | image hblank himage hdata h =>
      obtain rfl := Sha256.isDigest_iff.mp h
      exact Or.inr ⟨givenChecksum?_eq_none.mpr hblank, Or.inl ⟨_, _, himage, hdata, rfl⟩⟩
    | absent hblank himage =>
      exact Or.inr ⟨givenChecksum?_eq_none.mpr hblank, Or.inr ⟨himage, rfl⟩⟩
  · rintro ⟨-, ⟨_, hgiven, rfl⟩ | ⟨hgiven, ⟨image, data, himage, hdata, rfl⟩ | ⟨himage, rfl⟩⟩⟩
    · obtain ⟨text, htext, hne, rfl⟩ := givenChecksum?_eq_some.mp hgiven
      exact .given htext hne
    · exact .image (givenChecksum?_eq_none.mp hgiven) himage hdata (Sha256.isDigest_iff.mpr rfl)
    · exact .absent (givenChecksum?_eq_none.mp hgiven) himage

theorem Measured.unique {found' : Option String} (h : Measured r.files request found)
    (h' : Measured r.files request found') : found' = found := by
  have hsame := (measured_iff.mp h').symm.trans (measured_iff.mp h)
  exact (EStateM.Result.ok.inj hsame).1

/-! ### The verdict -/

/-- The verdict on a checksum against the one on record. -/
inductive Decided : (imageIsThere : Bool) → (expected actual : String) → Verdict → Prop
  | missingImage {expected actual : String} : Decided false expected actual [.missingImage]
  | missingChecksum {actual : String} : Decided true "" actual [.missingChecksum]
  | pass {actual : String} (hne : actual ≠ "") : Decided true actual actual []
  | mismatch {expected actual : String} (hne : expected ≠ "") (hdiffer : expected ≠ actual) :
    Decided true expected actual [.checksumMismatch expected actual]

variable {actual expected : String}

theorem decided_of_failure? (imageIsThere : Bool) (expected actual : String) :
    Decided imageIsThere expected actual (failure? imageIsThere expected actual).toList := by
  unfold failure?
  cases imageIsThere with
  | false => exact .missingImage
  | true =>
    by_cases he : expected = ""
    · rw [he]
      exact .missingChecksum
    · by_cases hsame : expected = actual
      · rw [← hsame]
        simpa [he] using Decided.pass he
      · simpa [he, hsame] using Decided.mismatch he hsame

/-- The two texts that a failing image was judged by are kept. -/
structure Kept (w : Writer) (test : Path) (actual expected : String) (t : FileTree) : Prop where
  actual_kept : t.readFile (w.actualPath test "" extension) = .ok (Utf8.encode actual)
  expected_kept : expected ≠ "" →
    t.readFile (w.expectedPath test "" extension) = .ok (Utf8.encode expected)

/-- Neither image is copied to where a checksum is. -/
theorem place_copy_ne {p q : Path} (hp : p ∈ checksumPaths w test)
    (hq : q ∈ [actualImagePath w test, expectedImagePath w test]) (t : FileTree) :
    t.place q ≠ t.place p := by
  simp only [checksumPaths, List.mem_cons, List.not_mem_nil, or_false] at hp hq
  rcases hp with rfl | rfl <;> rcases hq with rfl | rfl <;>
    exact w.place_artifactPath_ne test (by decide) (by decide) (by decide) t

theorem kept_of_keepImages {image : Option Path} {baseline : Path} (hne : actual ≠ "")
    (h : keepImages w test image actual expected baseline r = .ok () r') :
    Kept w test actual expected r'.files := by
  obtain ⟨set, m, hwrite, hcopies⟩ := bind_eq_ok.mp h
  have hread := Writer.readFile_of_writeResults (by decide) (by decide)
    (fun hwants => absurd hwants (Writer.not_wantsWords rfl)) hwrite
  have hcopy : Leads (Run.FileWork [actualImagePath w test, expectedImagePath w test] [])
      (copyImages w test image baseline) :=
    copyImages_fileWork w test image baseline List.mem_cons_self
      (List.mem_cons_of_mem _ List.mem_cons_self)
  have hleft : ∀ p ∈ checksumPaths w test, ∀ data, m.files.readFile p = .ok data →
      r'.files.readFile p = .ok data := by
    intro p hp data hdata
    exact (hcopy.of_ok hcopies).files.readFile hdata fun q hq => place_copy_ne hp hq m.files
  have hpresent : ∀ {s : String}, s ≠ "" →
      Writer.present (some (Utf8.encode s)) = some (Utf8.encode s) :=
    fun hs => Writer.present_some (Utf8.encode_ne_nil hs)
  constructor
  · have hactual := hread _ (w.actual_mem_texts test "" extension (hpresent hne) _)
    exact hleft _ (by simp [checksumPaths]) _ hactual
  · intro he
    have hexpected := hread _ (w.expected_mem_texts test "" extension (hpresent he) _)
    exact hleft _ (by simp [checksumPaths]) _ hexpected

/-- The verdict on an image of which a checksum was found, or none. -/
structure Judged (w : Writer) (test : Path) (found : Option String) (r r' : Run)
    (verdict : Verdict) : Prop where
  absent : found = none → verdict = [.missingActualChecksum]
  decided : ∀ actual, found = some actual → ∃ data,
    r.files.CountsAs (w.expectedBaseline r.files test extension) data ∧
    Decided (r.files.isFile (w.expectedBaseline r.files test imageExtension))
      (Text.trim (Utf8.decodeLossy data)) actual verdict ∧
    (verdict ≠ [] → Kept w test actual (Text.trim (Utf8.decodeLossy data)) r'.files)

/-- **An image is judged** by what its checksum is measured to be. -/
theorem judged_of_compare (h : request.newBaseline = false)
    (hr : compare w test request r = .ok verdict r') :
    ∃ found, Measured r.files request found ∧ Judged w test found r r' verdict := by
  rcases (compare_eq_ok h).mp hr with ⟨hnone, hverdict, -⟩ | ⟨actual, data, hsome, hcounts, hrest⟩
  · exact ⟨none, measured_iff.mpr hnone, fun _ => hverdict, by simp⟩
  · have hdecided := decided_of_failure?
      (r.files.isFile (w.expectedBaseline r.files test imageExtension)) (recordedChecksum data) actual
    refine ⟨some actual, measured_iff.mpr hsome, by simp, ?_⟩
    rintro _ ⟨⟩
    refine ⟨data, hcounts, ?_⟩
    obtain ⟨hright, rfl, -⟩ | ⟨failure, hwrong, rfl, hkeep⟩ := hrest
    · rw [show failure? _ _ _ = none from hright] at hdecided
      exact ⟨hdecided, fun hne => absurd rfl hne⟩
    · rw [show failure? _ _ _ = some failure from hwrong] at hdecided
      exact ⟨hdecided, fun _ => kept_of_keepImages (trim_of_actualChecksum hsome).2 hkeep⟩

/-! ### Blanks around the checksum -/

/-- **Blanks around the checksum that is given** are nothing to a comparison. -/
theorem compare_pad {text before after : String} (hb : Text.AllBlank before)
    (ha : Text.AllBlank after) (htext : request.checksum = some text) :
    compare w test { request with checksum := some (before ++ text ++ after) } =
      compare w test request := by
  have hgiven : givenChecksum? { request with checksum := some (before ++ text ++ after) } =
      givenChecksum? request := by
    simp only [givenChecksum?, htext, Option.map_some, Text.trim_pad hb ha]
  unfold compare actualChecksum
  rw [hgiven]
  rfl

/-! ### Blanks around the checksum on record -/

/-- Blanks are put around what the file at a location holds, and nothing else is changed. -/
structure Padded (l : Location) (t t' : FileTree) : Prop where
  start : t'.start = t.start
  elsewhere : ∀ l', l' ≠ l → t'.node? l' = t.node? l'
  there : ∃ (before after : String) (data : Bytes) (x : Bool), Text.AllBlank before ∧
    Text.AllBlank after ∧ t.node? l = some (.file data x) ∧
    t'.node? l = some (.file (Utf8.encode before ++ data ++ Utf8.encode after) x)

theorem Padded.sameShape (h : Padded l t t') : SameShape t t' := by
  refine ⟨h.start, fun l' => ?_⟩
  unfold shape?
  by_cases hl : l' = l
  · obtain ⟨before, after, data, x, -, -, hnode, hnode'⟩ := h.there
    rw [hl, hnode, hnode']
    rfl
  · rw [h.elsewhere l' hl]

/-- What is elsewhere reads as before. -/
theorem Padded.readFile (h : Padded l t t') {p : Path} (hp : t.place p ≠ l) :
    t'.readFile p = t.readFile p := by
  unfold FileTree.readFile
  rw [h.sameShape.locate]
  cases hl : t.locate p with
  | error e => rfl
  | ok l' =>
    dsimp only
    rw [h.elsewhere l' (place_of_locate hl ▸ hp)]

/-- **Every file reads as the same checksum**, and a path that cannot be read fails as before. -/
theorem Padded.recordedChecksum (h : Padded l t t') (p : Path) :
    (∃ fault, t.readFile p = .error fault ∧ t'.readFile p = .error fault) ∨
      ∃ data data', t.readFile p = .ok data ∧ t'.readFile p = .ok data' ∧
        recordedChecksum data' = recordedChecksum data := by
  unfold FileTree.readFile
  rw [h.sameShape.locate]
  cases t.locate p with
  | error e => exact Or.inl ⟨e, rfl, rfl⟩
  | ok l' =>
    dsimp only
    by_cases hl : l' = l
    · obtain ⟨before, after, data, x, hb, ha, hnode, hnode'⟩ := h.there
      rw [hl, hnode, hnode']
      exact Or.inr ⟨_, _, rfl, rfl, Text.trim_decodeLossy_pad hb ha data⟩
    · rw [h.elsewhere l' hl]
      rcases t.node? l' with _ | _ | ⟨data, x⟩
      · exact Or.inl ⟨_, rfl, rfl⟩
      · exact Or.inl ⟨_, rfl, rfl⟩
      · exact Or.inr ⟨_, _, rfl, rfl, rfl⟩

/-- The checksum of the image does not come from the file at a location. -/
def ImageApart (request : Request) (l : Location) (t : FileTree) : Prop :=
  GivenBlank request → ∀ image, request.image = some image → t.place image ≠ l

theorem read_abreast (p : Path) (l : Location) :
    Abreast SameShape (fun t t' => Padded l t t' ∧ t.place p ≠ l) (Padded l) (Run.read p) := by
  intro r r' ⟨hpadded, hne⟩
  unfold Run.read
  rw [hpadded.readFile hne]
  cases r.files.readFile p with
  | ok data => exact .ok hpadded
  | error fault => exact .error hpadded.sameShape

/-- The checksum of an image is found abreast when blanks are put around another file. -/
theorem actualChecksum_abreast (request : Request) (l : Location) :
    Abreast SameShape (fun t t' => Padded l t t' ∧ ImageApart request l t) (Padded l)
      (actualChecksum request) := by
  have hpure : ∀ found : Option String, Abreast SameShape
      (fun t t' => Padded l t t' ∧ ImageApart request l t) (Padded l) (pure found) :=
    fun found => (Abreast.pure found).mono (fun _ _ ht => ht) (fun _ _ ht => ht.1) fun _ _ ht => ht
  unfold actualChecksum
  split
  · exact hpure _
  · rename_i image hgiven himage
    have hread : Abreast SameShape (fun t t' => Padded l t t' ∧ ImageApart request l t) (Padded l)
        (Run.read image) := by
      refine (read_abreast image l).mono (fun _ _ ht => ht) (fun t t' ht => ?_) fun _ _ ht => ht
      exact ⟨ht.1, ht.2 (givenChecksum?_eq_none.mp hgiven) image himage⟩
    exact Abreast.bind hread fun _ => Abreast.pure _
  · exact hpure _

/-- A record is read abreast when all that counts is its checksum. -/
theorem readRecord_abreast {α : Type} (p : Path) (f : String → α) (l : Location) :
    Abreast SameShape (Padded l) SameShape
      (do return f (recordedChecksum (← Run.readIfThere p))) := by
  intro r r' hpadded
  have hshape := hpadded.sameShape
  obtain ⟨fault, hread, hread'⟩ | ⟨data, data', hread, hread', hsame⟩ := hpadded.recordedChecksum p
  · by_cases hkind : fault.kind = .notFound
    · -- the record is missing in both runs, and counts as empty
      rw [bind_of_ok (Run.readIfThere_eq_ok.mpr ⟨Or.inr ⟨rfl, fault, hread, hkind⟩, rfl⟩),
        bind_of_ok (Run.readIfThere_eq_ok.mpr ⟨Or.inr ⟨rfl, fault, hread', hkind⟩, rfl⟩)]
      exact .ok hshape
    · rw [bind_of_error (Run.readIfThere_eq_error.mpr ⟨fault, hread, hkind, rfl, rfl⟩),
        bind_of_error (Run.readIfThere_eq_error.mpr ⟨fault, hread', hkind, rfl, rfl⟩)]
      exact .error hshape
  · rw [bind_of_ok (Run.readIfThere_eq_ok.mpr ⟨Or.inl hread, rfl⟩),
      bind_of_ok (Run.readIfThere_eq_ok.mpr ⟨Or.inl hread', rfl⟩), hsame]
    exact .ok hshape

theorem findings_abreast (w : Writer) (test : Path) (request : Request) (actual : String)
    (l : Location) : Abreast SameShape (Padded l) SameShape (findings w test request actual) := by
  apply Abreast.get
  · intro r r' hpadded
    have hshape := hpadded.sameShape
    simp only [w.expectedBaseline_of_sameShape test _ hshape, hshape.isFile]
  · intro r
    have hread := readRecord_abreast (w.expectedBaseline r.files test extension)
      (fun expected => (expected, w.expectedBaseline r.files test imageExtension,
        failure? (r.files.isFile (w.expectedBaseline r.files test imageExtension)) expected actual)) l
    exact Abreast.ite (fun _ => Abreast.bind (Run.report_abreast _) fun _ => hread) fun _ => hread

/-- **An image is judged abreast** when blanks are put around a file that its checksum does not
come from.  Once the files are read, only the shape of the tree matters. -/
theorem compare_abreast (h : request.newBaseline = false) (l : Location) :
    Abreast SameShape (fun t t' => Padded l t t' ∧ ImageApart request l t) SameShape
      (compare w test request) := by
  rw [compare_of_comparing h]
  apply Abreast.bind (actualChecksum_abreast request l)
  intro found
  cases found with
  | none =>
    have hpure : Run.KeepsShape (pure [Failure.missingActualChecksum]) := Abreast.pure _
    exact hpure.mono (fun _ _ ht => ht) (fun _ _ ht => ht.sameShape) fun _ _ ht => ht
  | some actual =>
    apply Abreast.bind (findings_abreast w test request actual l)
    rintro ⟨expected, baseline, wrong⟩
    cases wrong with
    | none => exact Abreast.pure _
    | some failure =>
      exact Abreast.bind (keepImages_keepsShape w test request.image actual expected baseline)
        fun _ => Abreast.pure _

/-! ### Content alone -/

/-- **The verdict on an image** comes from its checksum and the one on record, whatever blanks
are around them. -/
theorem verdict_of_image (h : request.newBaseline = false) :
    (∀ verdict r', compare w test request r = .ok verdict r' →
      ∃ found, Measured r.files request found ∧
        (∀ other, Measured r.files request other → other = found) ∧
        Judged w test found r r' verdict) ∧
    (∀ text before after, request.checksum = some text → Text.AllBlank before →
      Text.AllBlank after →
      compare w test { request with checksum := some (before ++ text ++ after) } =
        compare w test request) ∧
    ∀ s : Run, Padded (r.files.place (w.expectedBaseline r.files test extension)) r.files s.files →
      ImageApart request (r.files.place (w.expectedBaseline r.files test extension)) r.files →
      outcome (compare w test request s) = outcome (compare w test request r) := by
  refine ⟨?_, fun text before after htext hb ha => compare_pad hb ha htext, ?_⟩
  · intro verdict r' hr
    obtain ⟨found, hmeasured, hjudged⟩ := judged_of_compare h hr
    exact ⟨found, hmeasured, fun _ hother => hmeasured.unique hother, hjudged⟩
  · intro s hpadded hapart
    exact (compare_abreast h _ r s ⟨hpadded, hapart⟩).outcome_eq

/-- An image whose checksum is not the one on record, which has blanks around it. -/
theorem verdict_of_first_image :
    ∃ r', judging "a.png" withImages = .ok [.checksumMismatch "ab" "cd"] r' ∧
      Kept ⟨"linux", .ofString "out", .ofDirectory (.ofString "tests")⟩ (.ofString "tests/a.html")
        "cd" "ab" r'.files := by
  obtain ⟨r', hr⟩ : ∃ r', judging "a.png" withImages = .ok [.checksumMismatch "ab" "cd"] r' :=
    exists_of_answer? (by decide +kernel)
  obtain ⟨found, -, hunique, hjudged⟩ := (verdict_of_image rfl).1 _ _ hr
  have hgiven : Measured withImages.files ⟨false, some (.ofString "a.png"), some "cd", false, false⟩
      (some (Text.trim "cd")) := .given rfl (by decide)
  obtain rfl := hunique _ hgiven
  obtain ⟨data, hcounts, -, hkept⟩ := hjudged.decided "cd" rfl
  obtain rfl : [32, 97, 98, 10] = data := CountsAs.unique (Or.inl rfl) hcounts
  exact ⟨r', hr, hkept (by simp)⟩

/-- The files of a test whose checksum baseline holds a text and whose image baseline is there. -/
def recordOf (text : String) : FileTree :=
  ((FileTree.empty.addDirectory [] (Utf8.encode "tests")).setFile [Utf8.encode "tests"]
    (Utf8.encode "a-expected.png") [1] false).setFile [Utf8.encode "tests"]
    (Utf8.encode "a-expected.checksum") (Utf8.encode text) false

/-- A run that starts with these. -/
def withRecord (text : String) : Run := .begin (recordOf text) .empty (.scripted [] [])

theorem padded_recordOf (hl : l = [Utf8.encode "a-expected.checksum", Utf8.encode "tests"])
    (text : String) {after : String} (ha : Text.AllBlank after) :
    Padded l (recordOf text) (recordOf (text ++ after)) := by
  have hnode : ∀ s : String, (recordOf s).node? l = some (.file (Utf8.encode s) false) := by
    intro s
    rw [recordOf, node?_setFile (by decide) (by decide), if_pos hl]
  refine ⟨?_, fun l' hl' => ?_, "", after, Utf8.encode text, false, by decide, ha, hnode text, ?_⟩
  · simp [recordOf]
  · rw [hl] at hl'
    exact (node?_setFile_of_ne _ _ _ hl').trans (node?_setFile_of_ne _ _ _ hl').symm
  · rw [hnode, Utf8.encode_append]
    rfl

/-- The comparison of a test whose checksum baseline is its image. -/
def judgingRecord : Action Verdict :=
  compare ⟨"linux", .ofString "out", .ofDirectory (.ofString "tests")⟩ (.ofString "tests/a.html")
    ⟨false, some (.ofString "tests/a-expected.checksum"), none, false, false⟩

/-- **The verdict changes with blanks** in a file that is the image and its own record. -/
theorem not_always_unchanged :
    ¬ ∀ (w : Writer) (test : Path) (request : Request) (r s r' s' : Run) (v v' : Verdict),
      request.newBaseline = false →
      Padded (r.files.place (w.expectedBaseline r.files test extension)) r.files s.files →
      compare w test request r = .ok v r' → compare w test request s = .ok v' s' → v' = v := by
  intro h
  obtain ⟨r', hr⟩ : ∃ r', judgingRecord (withRecord "x") = .ok [.checksumMismatch "x"
      "2d711642b726b04401627ca9fbac32f5c8530fb1903cc4db02258717921a4881"] r' :=
    exists_of_answer? (by decide +kernel)
  obtain ⟨s', hs⟩ : ∃ s', judgingRecord (withRecord ("x" ++ "\n")) = .ok [.checksumMismatch "x"
      "73cb3858a687a8494ca3323053016282f3dad39d42cf62ca4e79dda2aac7d9ac"] s' :=
    exists_of_answer? (by decide +kernel)
  refine absurd (h _ _ _ _ _ _ _ _ _ rfl ?_ hr hs) (by decide)
  exact padded_recordOf (by decide +kernel) "x" (by decide)

end Baseline.ChecksumComparison
