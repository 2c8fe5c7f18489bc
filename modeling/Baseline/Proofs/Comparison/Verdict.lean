import Baseline.Proofs.Comparison.Passing
import Baseline.Proofs.FileTree.Ahead

/-!
# What a verdict depends on

A comparison is judged by the baselines that it finds and by the image of its request.  Two trees
in which a test has the same baselines (`Writer.SameBaseline`) give it the same verdict,
whatever else is in them and in the rest of the two runs (`Engine.SameVerdict`,
`Engine.sameVerdict_of_sameBaseline`).
-/

namespace Baseline

open Action FileTree

namespace Writer

/-- The platform's directory cannot be looked for from the top: the directory of all platforms is
not there, and on the way to it or next to it is a name that is too long. -/
def Unreachable (w : Writer) (t : FileTree) : Prop :=
  t.node? (t.place w.checkout.baselineDir) ≠ some .directory ∧
    Overlong (stepsOf (w.checkout.platformRoot w.platform))

/-- A test is compared with the same baseline in both trees, and it reads the same: the same content
or the same error.  What is missing in a directory that is missing may be too long a name once
the directory is there. -/
structure SameBaseline (w : Writer) (test : Path) (suffix : String) (t t' : FileTree) : Prop where
  resolved : w.expectedBaseline t' test suffix = w.expectedBaseline t test suffix
  read : t'.readFile (w.expectedBaseline t test suffix) =
      t.readFile (w.expectedBaseline t test suffix) ∨
    w.Unreachable t ∧ t.readFile (w.expectedBaseline t test suffix) = .error .notFound ∧
      t'.readFile (w.expectedBaseline t test suffix) = .error .nameTooLong

namespace SameBaseline

variable {w : Writer} {test : Path} {suffix : String} {t t' : FileTree} {data : Bytes}

theorem readFile_iff (h : w.SameBaseline test suffix t t') :
    t'.readFile (w.expectedBaseline t' test suffix) = .ok data ↔
      t.readFile (w.expectedBaseline t test suffix) = .ok data := by
  rw [h.resolved]
  rcases h.read with he | ⟨-, hmissed, hrefused⟩
  · rw [he]
  · simp [hmissed, hrefused]

theorem isFile_eq (h : w.SameBaseline test suffix t t') :
    t'.isFile (w.expectedBaseline t' test suffix) =
      t.isFile (w.expectedBaseline t test suffix) := by
  rw [Bool.eq_iff_iff, isFile_iff, isFile_iff]
  exact exists_congr fun _ => h.readFile_iff

/-- What a baseline counts as in the second tree it counts as in the first. -/
theorem countsAs (h : w.SameBaseline test suffix t t')
    (hdata : t'.CountsAs (w.expectedBaseline t' test suffix) data) :
    t.CountsAs (w.expectedBaseline t test suffix) data := by
  rw [h.resolved] at hdata
  rcases h.read with he | ⟨-, -, hrefused⟩
  · unfold CountsAs Missing at hdata ⊢
    rwa [he] at hdata
  · rcases hdata with hread | ⟨-, fault, hfault, hkind⟩
    · simp [hrefused] at hread
    · rw [hrefused] at hfault
      rw [← Except.error.inj hfault] at hkind
      exact absurd hkind (by decide)

theorem countsAs_iff (h : w.SameBaseline test suffix t t') (hw : ¬ w.Unreachable t) :
    t'.CountsAs (w.expectedBaseline t' test suffix) data ↔
      t.CountsAs (w.expectedBaseline t test suffix) data := by
  unfold CountsAs Missing
  rw [h.resolved, h.read.resolve_right fun h => hw h.1]

end SameBaseline

end Writer

namespace ChecksumComparison

variable {request : Request} {r r' : Run}

/-- The checksum of an image depends on the image alone. -/
theorem actualChecksum_congr
    (h : ∀ image ∈ request.image, r'.files.readFile image = r.files.readFile image)
    {found : Option String} :
    actualChecksum request r' = .ok found r' ↔ actualChecksum request r = .ok found r := by
  have himage : ∀ image data,
      (request.image = some image ∧ r'.files.readFile image = .ok data ∧
        found = some (Sha256.hexDigest data)) ↔
      (request.image = some image ∧ r.files.readFile image = .ok data ∧
        found = some (Sha256.hexDigest data)) :=
    fun image data => and_congr_right fun hi => by rw [h image hi]
  simp only [actualChecksum_eq_ok, true_and, himage]

end ChecksumComparison

namespace Engine

/-- Two runs in which a test is judged alike: to two verdicts only if they are the same, and to a
pass in both or in neither. -/
structure SameVerdict (e : Engine) (w : Writer) (test : Path) (output : Bytes) (request : Request)
    (r r' : Run) : Prop where
  verdict : ∀ {v v' : Verdict} {s s' : Run}, e.compare w test output request r = .ok v s →
    e.compare w test output request r' = .ok v' s' → v' = v
  pass : ¬ w.Unreachable r.files →
    ((∃ s', e.compare w test output request r' = .ok [] s') ↔
      ∃ s, e.compare w test output request r = .ok [] s)

variable {w : Writer} {test : Path} {output : Bytes} {request : Request} {r r' : Run}

theorem sameVerdict_text (hnew : request.newBaseline = false)
    (h : w.SameBaseline test TextComparison.extension r.files r'.files) :
    Engine.text.SameVerdict w test output request r r' where
  verdict hr hr' := by
    obtain ⟨expected, hcounts, hend⟩ := (TextComparison.compare_eq_ok hnew).mp hr
    obtain ⟨expected', hcounts', hend'⟩ := (TextComparison.compare_eq_ok hnew).mp hr'
    obtain rfl := (h.countsAs hcounts').unique hcounts
    rcases hend with ⟨heq, hv, -⟩ | ⟨hne, hv, -⟩ <;>
      rcases hend' with ⟨heq', hv', -⟩ | ⟨hne', hv', -⟩
    · rw [hv, hv']
    · exact absurd heq hne'
    · exact absurd heq' hne
    · rw [hv, hv']
  pass hw := by
    refine (TextComparison.exists_pass_iff hnew).trans ?_
    exact (h.countsAs_iff hw).trans (TextComparison.exists_pass_iff hnew).symm

open ChecksumComparison in
theorem sameVerdict_checksum (hnew : request.newBaseline = false)
    (himage : ∀ image ∈ request.image, r'.files.readFile image = r.files.readFile image)
    (h : ∀ suffix ∈ Engine.checksum.extensions, w.SameBaseline test suffix r.files r'.files) :
    Engine.checksum.SameVerdict w test output request r r' := by
  have hchecksum := h extension (by simp [extensions])
  have hthere := (h imageExtension (by simp [extensions])).isFile_eq
  have hwrong : ∀ actual data,
      wrong? w test r'.files actual data = wrong? w test r.files actual data := by
    intro actual data
    rw [wrong?, wrong?, hthere]
  refine ⟨fun hr hr' => ?_, fun _ => ?_⟩
  · rcases (compare_eq_ok hnew).mp hr with
        ⟨hfound, hv, -⟩ | ⟨actual, data, hfound, hcounts, hend⟩ <;>
      rcases (compare_eq_ok hnew).mp hr' with
        ⟨hfound', hv', -⟩ | ⟨actual', data', hfound', hcounts', hend'⟩
    · rw [hv, hv']
    · simp [(actualChecksum_congr himage).mp hfound'] at hfound
    · simp [(actualChecksum_congr himage).mp hfound'] at hfound
    · obtain rfl : actual' = actual := by
        simpa [(actualChecksum_congr himage).mp hfound'] using hfound
      obtain rfl := (hchecksum.countsAs hcounts').unique hcounts
      rw [hwrong] at hend'
      rcases hend with ⟨hright, hv, -⟩ | ⟨failure, hfails, hv, -⟩ <;>
        rcases hend' with ⟨hright', hv', -⟩ | ⟨failure', hfails', hv', -⟩
      · rw [hv, hv']
      · simp [hright] at hfails'
      · simp [hright'] at hfails
      · rw [hv, hv', Option.some.inj (hfails'.symm.trans hfails)]
  · refine (exists_pass_iff hnew).trans (Iff.trans ?_ (exists_pass_iff hnew).symm)
    simp only [actualChecksum_congr himage, hchecksum.readFile_iff, hthere]

/-- **A test with the same baselines is judged alike.** -/
theorem sameVerdict_of_sameBaseline (e : Engine) (hnew : request.newBaseline = false)
    (himage : ∀ image ∈ request.image, r'.files.readFile image = r.files.readFile image)
    (h : ∀ suffix ∈ e.extensions, w.SameBaseline test suffix r.files r'.files) :
    e.SameVerdict w test output request r r' := by
  cases e with
  | text => exact sameVerdict_text hnew (h _ (by simp [extensions]))
  | checksum => exact sameVerdict_checksum hnew himage h

end Engine

end Baseline
