import Baseline.Proofs.Artifact.Saving
import Baseline.Proofs.Comparison.Checksum

/-!
# Promotions that fail

The checksum engine promotes two files, the checksum first.  A promotion that
fails leaves the image baseline as it was; the checksum baseline too, unless the
failure came after it was written (`baselines_of_failed_promotion`).  Then one of
two things happened: the driver gave the checksum and the image cannot be read,
or a directory stands where the image baseline goes.  Nothing is taken back, so
promoting is not all or nothing (`not_all_or_nothing`).

Nothing else can go wrong with the second baseline
(`Writer.saveBaseline_after_saveBaseline`).
-/

namespace Baseline

open Action

namespace ChecksumComparison

/-! ### Saving a checksum and an image -/

variable {w : Writer} {test : Path} {request : Request} {r r' : Run}

theorem place_checksum_ne_image (w : Writer) (test : Path) (t : FileTree) :
    t.place (w.baselinePath test extension) ≠ t.place (w.baselinePath test imageExtension) :=
  Writer.place_baselinePath_ne (by decide) (by decide) (by decide) t

/-- Saving both fails before the checksum is written, or leaves what saving the checksum left. -/
theorem files_of_failed_saveBaselines {checksum : String} {e : RunError}
    (h : saveBaselines w test checksum request r = .error e r') :
    (∃ dirs, r.files.ChangesOnly [] dirs r'.files) ∨
    ∃ image path m, request.image = some image ∧
      w.saveBaseline test (Utf8.encode checksum) extension r = .ok path m ∧ r'.files = m.files ∧
      ((∃ fault, m.files.readFile image = .error fault ∧ e = .file image fault) ∨
        (m.files.node? (m.files.place (w.baselinePath test imageExtension)) = some .directory ∧
          e = .file (w.baselinePath test imageExtension) .isDirectory)) := by
  rcases bind_eq_error.mp h with hfirst | ⟨path, m, hfirst, hrest⟩
  · exact Or.inl ⟨_, Writer.changesOnly_of_failed_saveBaseline hfirst⟩
  · cases hpath : request.image with
    | none => simp [hpath] at hrest
    | some image =>
      simp only [hpath] at hrest
      refine Or.inr ⟨image, path, m, rfl, hfirst, ?_⟩
      rcases bind_eq_error.mp hrest with hread | ⟨data, m', hread, hlast⟩
      · obtain ⟨fault, hfault, he, rfl⟩ := Run.read_eq_error.mp hread
        exact ⟨rfl, Or.inl ⟨fault, hfault, he⟩⟩
      · obtain ⟨-, rfl⟩ := Run.read_eq_ok.mp hread
        rcases bind_eq_error.mp hlast with hsecond | ⟨_, m₂, -, hdone⟩
        · obtain ⟨hfiles, hfail⟩ := Writer.saveBaseline_after_saveBaseline (by decide) (by decide)
            (by decide) (by decide) hfirst hsecond
          exact ⟨hfiles, Or.inr hfail⟩
        · simp at hdone

/-- **A promotion that fails** leaves the image baseline as it was.  It leaves the checksum
baseline as it was too, or the new checksum is there and the image is not: the driver gave the
checksum and the image cannot be read, or a directory stands where the image goes. -/
theorem baselines_of_failed_promotion {e : RunError} (h : request.newBaseline = true)
    (hr : compare w test request r = .error e r') :
    r'.files.content? (r.files.place (w.baselinePath test imageExtension)) =
        r.files.content? (r.files.place (w.baselinePath test imageExtension)) ∧
    (r'.files.content? (r.files.place (w.baselinePath test extension)) =
        r.files.content? (r.files.place (w.baselinePath test extension)) ∨
      ∃ image checksum, request.image = some image ∧
        actualChecksum request r = .ok (some checksum) r ∧
        r'.files.content? (r.files.place (w.baselinePath test extension)) =
          some (Utf8.encode checksum) ∧
        ((givenChecksum? request = some checksum ∧
            ∃ fault, r'.files.readFile image = .error fault ∧ e = .file image fault) ∨
          (r'.files.node? (r.files.place (w.baselinePath test imageExtension)) = some .directory ∧
            e = .file (w.baselinePath test imageExtension) .isDirectory))) := by
  rw [compare_of_promoting h] at hr
  rcases bind_eq_error.mp hr with hread | ⟨found, m, hfound, hrest⟩
  · -- the image could not be read for its checksum
    rw [((actualChecksum_looks request).of_error hread).files]
    exact ⟨rfl, Or.inl rfl⟩
  obtain ⟨rfl, hgiven⟩ := run_of_actualChecksum hfound
  cases found with
  | none => simp at hrest
  | some checksum =>
    rcases bind_eq_error.mp hrest with hboth | ⟨⟨⟩, m₁, -, hdone⟩
    · rcases files_of_failed_saveBaselines hboth with
        ⟨dirs, hfiles⟩ | ⟨image, path, m₁, himage, hsave, hfiles, hfail⟩
      · exact ⟨hfiles.content? (by simp), Or.inl (hfiles.content? (by simp))⟩
      · have hwork := ((w.saveBaseline_fileWork test _ extension
          (List.mem_singleton_self _) fun _ hq => hq).of_ok hsave).files
        have hchecksum := Writer.content?_of_saveBaseline hsave
        rw [hfiles]
        refine ⟨hwork.content? fun p hp => ?_, Or.inr
          ⟨image, checksum, himage, hfound, hwork.place _ ▸ hchecksum, ?_⟩⟩
        · rw [List.mem_singleton.mp hp]
          exact place_checksum_ne_image w test m.files
        · rcases hfail with ⟨fault, hfault, rfl⟩ | ⟨hdirectory, he⟩
          · refine Or.inl ⟨?_, fault, hfault, rfl⟩
            rcases hgiven with hgiven | ⟨-, hreads⟩
            · exact hgiven
            · -- what was read for its checksum can be read again
              obtain ⟨data, hdata⟩ := hreads image himage
              obtain ⟨data', hdata'⟩ := hwork.exists_readFile hdata
              rw [hdata'] at hfault
              simp at hfault
          · exact Or.inr ⟨hwork.place _ ▸ hdirectory, he⟩
    · simp at hdone

/-- The promotion of a checksum that the driver gives, and of an image. -/
def promotion (checksum image : String) : Action Verdict :=
  compare ⟨"linux", .ofString "out", .ofDirectory (.ofString "tests")⟩ (.ofString "tests/a.html")
    ⟨true, some (.ofString image), some checksum, false, false⟩

/-- The run after the checksum `h0` and an image were promoted. -/
def promotedOnce : Run :=
  endOf (promotion "h0" "a.png" (.begin
    (FileTree.empty.setFile [] (Utf8.encode "a.png") [1] false) .empty (.scripted [] [])))

/-- **Promoting is not all or nothing**: with `h1` for an image that is not there, the checksum
baseline is replaced and the old image stays beside it. -/
theorem not_all_or_nothing :
    ¬ ∀ (w : Writer) (test : Path) (request : Request) (r r' : Run) (e : RunError),
      request.newBaseline = true → compare w test request r = .error e r' →
        ∀ suffix ∈ [extension, imageExtension],
          r'.files.content? (r.files.place (w.baselinePath test suffix)) =
            r.files.content? (r.files.place (w.baselinePath test suffix)) := by
  intro h
  obtain ⟨e, r', hr⟩ := exists_of_endedBadly (x := promotion "h1" "gone.png") (r := promotedOnce)
    (by decide +kernel)
  have hsame := h _ _ _ _ _ _ rfl hr extension (by simp)
  rw [← endOf_error hr] at hsame
  revert hsame
  decide +kernel

/-- That promotion leaves the old image. -/
theorem baselines_of_second_promotion :
    ∃ e r', promotion "h1" "gone.png" promotedOnce = .error e r' ∧
      r'.files.content? (promotedOnce.files.place (Writer.baselinePath
        ⟨"linux", .ofString "out", .ofDirectory (.ofString "tests")⟩ (.ofString "tests/a.html")
        imageExtension)) = some [1] := by
  obtain ⟨e, r', hr⟩ := exists_of_endedBadly (x := promotion "h1" "gone.png") (r := promotedOnce)
    (by decide +kernel)
  exact ⟨e, r', hr, (baselines_of_failed_promotion rfl hr).1.trans (by decide +kernel)⟩

end ChecksumComparison

end Baseline
