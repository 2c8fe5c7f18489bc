import Baseline.Proofs.FileTree.Aside
import Baseline.Proofs.FileTree.Directory

/-!
# Writing again

A file that was written or copied can be written or copied again, and that leaves the
files looking the same (`writeFile_later`, `copyFile_later`).  Other work may come in
between, as long as it writes neither that file nor what was copied into it.

Both come down to a file that is put where it stands already (`setFile_later`).
-/

namespace Baseline.FileTree

open Path

variable {writes dirs : List Path} {t t' t'' : FileTree} {p source destination : Path}
  {above : Location} {name : Name} {data : Bytes} {x : Bool}

/-! ### Trees that look the same -/

theorem Same.refl (t : FileTree) : Same t t := ⟨rfl, fun _ => rfl⟩

theorem Same.trans (h : Same t t') (h' : Same t' t'') : Same t t'' :=
  ⟨h'.start.trans h.start, fun l => (h'.node l).trans (h.node l)⟩

/-- What looks the same has not changed. -/
theorem Same.changesOnly (h : Same t t') : ChangesOnly writes dirs t t' :=
  ⟨h.start, fun l => Or.inl (h.node l)⟩

/-! ### Files put again -/

/-- **A file that was put** is where it was put, and can be put there again: that changes nothing
that can be seen. -/
theorem setFile_later (ho : t.openForWriting p = .ok (above, name))
    (hc : (t.setFile above name data x).ChangesOnly writes dirs t'')
    (hw : ∀ q ∈ writes, t.place q ≠ t.place p) :
    t''.openForWriting p = .ok (above, name) ∧ t''.node? (name :: above) = some (.file data x) ∧
      Same t'' (t''.setFile above name data x) := by
  have hput := changesOnly_setFile ho data x
  obtain ⟨hslot, hend, hlong, hn⟩ := openForWriting_eq_ok.mp ho
  obtain ⟨hrefuse, before, hsteps, hwalk, hd⟩ := slot_eq_entry.mp hslot
  have hplace : t.place p = name :: above := place_of_slot hslot
  have hfile : t''.node? (name :: above) = some (.file data x) := by
    refine hc.file ((node?_setFile hd hn _).trans (if_pos rfl)) fun q hq => ?_
    rw [hput.place, ← hplace]
    exact hw q hq
  have hd'' : t''.node? above = some .directory := hc.directory (hput.directory hd)
  have hn'' : t''.node? (name :: above) ≠ some .directory := by simp [hfile]
  refine ⟨openForWriting_eq_ok.mpr ⟨slot_eq_entry.mpr ⟨hrefuse, before, hsteps, ?_, hd''⟩, hend,
    hlong, hn''⟩, hfile, by simp, fun l => ?_⟩
  · rw [hc.origin, hput.origin]
    exact hc.walk (hput.walk hwalk)
  · rw [node?_setFile hd'' hn'']
    by_cases hl : l = name :: above
    · rw [if_pos hl, hl, hfile]
    · rw [if_neg hl]

/-- **What was written can be written again**, and that changes nothing that can be seen. -/
theorem writeFile_later (h : t.writeFile p data = .ok t') (hc : t'.ChangesOnly writes dirs t'')
    (hw : ∀ q ∈ writes, t.place q ≠ t.place p) :
    ∃ again, t''.writeFile p data = .ok again ∧ Same t'' again := by
  obtain ⟨above, name, ho, rfl⟩ := writeFile_eq_ok.mp h
  obtain ⟨ho'', hfile, hsame⟩ := setFile_later ho hc hw
  refine ⟨_, writeFile_eq_ok.mpr ⟨above, name, ho'', rfl⟩, ?_⟩
  rw [isExecutable_of_node? hfile]
  exact hsame

/-- **What was copied can be copied again**, and that changes nothing that can be seen. -/
theorem copyFile_later (h : t.copyFile source destination = .ok t')
    (hc : t'.ChangesOnly writes dirs t'') (hs : ∀ q ∈ writes, t.place q ≠ t.place source)
    (hd : ∀ q ∈ writes, t.place q ≠ t.place destination) :
    ∃ again, t''.copyFile source destination = .ok again ∧ Same t'' again := by
  have hcopy := ChangesOnly.of_copyFile h
  obtain ⟨from_, data, x, above, name, hl, hn, ho, rfl⟩ := copyFile_eq_ok.mp h
  obtain ⟨ho'', hfile, hsame⟩ := setFile_later ho hc hd
  have hplace : t.place source = from_ := place_of_locate hl
  obtain ⟨hrefuse, hwalk, hslash⟩ := locate_eq_ok.mp hl
  have hl'' : t''.locate source = .ok from_ := by
    refine locate_eq_ok.mpr ⟨hrefuse, ?_, fun hend => by simp [hslash hend] at hn⟩
    rw [hc.origin, hcopy.origin]
    exact hc.walk (hcopy.walk hwalk)
  by_cases hself : name :: above = from_
  · -- copied onto itself it is empty, and is emptied again
    rw [if_pos hself] at hfile hsame
    exact ⟨_, copyFile_eq_ok.mpr ⟨from_, [], x, above, name, hl'', hself ▸ hfile, ho'', rfl⟩,
      by rwa [if_pos hself]⟩
  · have hsource : t''.node? from_ = some (.file data x) := by
      refine hc.file (hcopy.file hn fun q hq => ?_) fun q hq => ?_
      · rw [List.mem_singleton.mp hq, place_of_slot (openForWriting_eq_ok.mp ho).1]
        exact hself
      · rw [hcopy.place, ← hplace]
        exact hs q hq
    rw [if_neg hself] at hsame
    exact ⟨_, copyFile_eq_ok.mpr ⟨from_, data, x, above, name, hl'', hsource, ho'', rfl⟩,
      by rwa [if_neg hself]⟩

end Baseline.FileTree
