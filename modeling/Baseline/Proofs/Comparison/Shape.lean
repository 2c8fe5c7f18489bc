import Baseline.Proofs.Abreast
import Baseline.Proofs.Comparison.Checksum
import Baseline.Proofs.FileTree.Shape

/-!
# Artifacts in trees of the same shape

Directories are made, files are written and copied abreast in two runs whose files have the same
shape, and they have the same shape afterwards (`Run.KeepsShape`).  So the artifacts of an image
that fails are kept abreast, whatever the files in the two runs hold
(`ChecksumComparison.keepImages_keepsShape`).
-/

namespace Baseline

open Action FileTree

namespace Run

/-- The action runs abreast when the files of both runs have the same shape, and they keep it. -/
abbrev KeepsShape {α : Type} (x : Action α) : Prop := Abreast SameShape SameShape SameShape x

theorem write_keepsShape (p : Path) (data : Bytes) : KeepsShape (write p data) := by
  intro r r' hr
  have halike := hr.writeFile p data data
  rw [write_apply, write_apply]
  generalize r.files.writeFile p data = s at halike
  generalize r'.files.writeFile p data = s' at halike
  cases halike with
  | error e => exact .error hr
  | ok h => exact .ok h

theorem copy_keepsShape (source destination : Path) : KeepsShape (copy source destination) := by
  intro r r' hr
  have halike := hr.copyFile source destination
  unfold copy
  generalize r.files.copyFile source destination = s at halike
  generalize r'.files.copyFile source destination = s' at halike
  cases halike with
  | error e => exact .error hr
  | ok h => exact .ok h

theorem ensureDirectory_keepsShape (p : Path) : KeepsShape (ensureDirectory p) := by
  intro r r' hr
  obtain ⟨houtcome, hshape⟩ := hr.ensureDirectory p
  unfold ensureDirectory
  generalize r.files.ensureDirectory p = s at houtcome hshape
  generalize r'.files.ensureDirectory p = s' at houtcome hshape
  obtain ⟨outcome, files⟩ := s
  obtain ⟨outcome', files'⟩ := s'
  obtain rfl : outcome' = outcome := houtcome
  cases outcome' with
  | error fault => exact .error hshape
  | ok => exact .ok hshape

theorem writeAll_keepsShape (ps : List (Path × Bytes)) : KeepsShape (writeAll ps) := by
  induction ps with
  | nil => exact Abreast.pure ()
  | cons pd ps ih => exact Abreast.bind (write_keepsShape pd.1 pd.2) fun _ => ih

end Run

/-- **The same baseline is found** in trees of the same shape. -/
theorem Writer.expectedBaseline_of_sameShape (w : Writer) (test : Path) (suffix : String)
    {t t' : FileTree} (h : SameShape t t') :
    w.expectedBaseline t' test suffix = w.expectedBaseline t test suffix := by
  unfold expectedBaseline Checkout.expectedBaseline
  rw [h.isFile, h.isFile]

/-- Artifacts without a word diff are written abreast. -/
theorem Writer.writeResults_keepsShape (w : Writer) (test : Path) (tag extension : String)
    (actual expected : Option Bytes) {diffs : Diffs} (h : diffs.words = false) :
    Run.KeepsShape (w.writeResults test tag extension actual expected diffs) := by
  rw [writeResults_eq, if_neg (by simp [wantsWords, h])]
  apply Abreast.bind
  · exact Abreast.bind (Run.ensureDirectory_keepsShape _) fun _ => Run.writeAll_keepsShape _
  · intro _
    exact Abreast.bind (Abreast.pure ()) fun _ => Abreast.pure _

namespace ChecksumComparison

theorem copyImages_keepsShape (w : Writer) (test : Path) (image : Option Path) (baseline : Path) :
    Run.KeepsShape (copyImages w test image baseline) := by
  apply Abreast.get
  · intro r r' hr
    rw [hr.isFile]
  · intro r
    have hbaseline : Run.KeepsShape (if r.files.isFile baseline then
        Run.copy baseline (w.expectedPath test "" imageExtension) else pure ()) :=
      Abreast.ite (fun _ => Run.copy_keepsShape _ _) fun _ => Abreast.pure ()
    cases image with
    | none => exact hbaseline
    | some source => exact Abreast.bind (Run.copy_keepsShape _ _) fun _ => hbaseline

theorem keepImages_keepsShape (w : Writer) (test : Path) (image : Option Path)
    (actual expected : String) (baseline : Path) :
    Run.KeepsShape (keepImages w test image actual expected baseline) := by
  apply Abreast.bind
  · exact w.writeResults_keepsShape test "" extension _ _ rfl
  · intro _
    exact copyImages_keepsShape w test image baseline

end ChecksumComparison

end Baseline
