import Baseline.Proofs.FileTree.Change

/-!
# Adding to a file

What is added to a file stands behind what the file held (`content?_appendAt`), and
nothing else changes (`node?_appendAt_of_ne`).  A path that opens for writing leads to
a place where that can be done, and adding nothing makes the file when it is missing
(`content?_of_opened`).
-/

namespace Baseline.FileTree

/-! ### One file -/

theorem node?_setFile_of_ne (t : FileTree) {above l : Location} {name : Name} (data : Bytes)
    (x : Bool) (h : l ≠ name :: above) : (t.setFile above name data x).node? l = t.node? l := by
  by_cases hset : t.node? above = some .directory ∧ t.node? (name :: above) ≠ some .directory
  · rw [node?_setFile hset.1 hset.2, if_neg h]
  · rw [setFile, dif_neg hset]

/-- **Nothing changes but the file.** -/
theorem node?_appendAt_of_ne (t : FileTree) {above l : Location} {name : Name} (data : Bytes)
    (h : l ≠ name :: above) : (t.appendAt above name data).node? l = t.node? l :=
  t.node?_setFile_of_ne _ _ h

@[simp] theorem start_appendAt (t : FileTree) (above : Location) (name : Name) (data : Bytes) :
    (t.appendAt above name data).start = t.start := start_setFile ..

theorem content?_eq_some {t : FileTree} {l : Location} {data : Bytes} :
    t.content? l = some data ↔ ∃ x, t.node? l = some (.file data x) := by
  unfold content?
  cases hn : t.node? l with
  | none => simp
  | some node => cases node <;> simp [eq_comm]

theorem content?_eq_of_node? {t t' : FileTree} {l : Location} (h : t'.node? l = t.node? l) :
    t'.content? l = t.content? l := by
  rw [content?, content?, h]

theorem dataAt_eq (t : FileTree) (l : Location) : t.dataAt l = (t.content? l).getD [] := by
  unfold dataAt content?
  cases t.node? l with
  | none => rfl
  | some node => cases node <;> rfl

/-- What holds a file is a directory. -/
theorem directory_of_file {t : FileTree} {above : Location} {name : Name} {data : Bytes} {x : Bool}
    (h : t.node? (name :: above) = some (.file data x)) : t.node? above = some .directory :=
  t.closed name above _ h

/-- **What is added stands behind what was there.** -/
theorem content?_appendAt {t : FileTree} {above : Location} {name : Name}
    (hd : t.node? above = some .directory) (hn : t.node? (name :: above) ≠ some .directory)
    (data : Bytes) :
    (t.appendAt above name data).content? (name :: above) =
      some (t.dataAt (name :: above) ++ data) := by
  rw [content?, appendAt, node?_setFile hd hn, if_pos rfl]

/-- A file grows by what is added to it. -/
theorem content?_appendAt_of_file {t : FileTree} {above : Location} {name : Name} {before : Bytes}
    (h : t.content? (name :: above) = some before) (data : Bytes) :
    (t.appendAt above name data).content? (name :: above) = some (before ++ data) := by
  obtain ⟨x, hx⟩ := content?_eq_some.mp h
  rw [content?_appendAt (directory_of_file hx) (by simp [hx]), dataAt_eq, h, Option.getD_some]

/-! ### Opened files -/

/-- What opens for writing is in a directory, and is none itself. -/
theorem directory_of_opened {t : FileTree} {p : Path} {above : Location} {name : Name}
    (h : t.openForWriting p = .ok (above, name)) :
    t.node? above = some .directory ∧ t.node? (name :: above) ≠ some .directory := by
  obtain ⟨hslot, -, -, hn⟩ := openForWriting_eq_ok.mp h
  obtain ⟨-, before, -, -, hd⟩ := slot_eq_entry.mp hslot
  exact ⟨hd, hn⟩

theorem place_of_opened {t : FileTree} {p : Path} {above : Location} {name : Name}
    (h : t.openForWriting p = .ok (above, name)) : t.place p = name :: above :=
  place_of_slot (openForWriting_eq_ok.mp h).1

/-- **A file that was opened is there**, with what it held. -/
theorem content?_of_opened {t : FileTree} {p : Path} {above : Location} {name : Name}
    (h : t.openForWriting p = .ok (above, name)) :
    (t.appendAt above name []).content? (t.place p) = some (t.dataAt (t.place p)) := by
  obtain ⟨hd, hn⟩ := directory_of_opened h
  rw [place_of_opened h, content?_appendAt hd hn, List.append_nil]

/-- Adding nothing leaves every content as it is. -/
theorem content?_appendAt_nil {t : FileTree} {l : Location} {data : Bytes}
    (hl : t.content? l = some data) (above : Location) (name : Name) :
    (t.appendAt above name []).content? l = some data := by
  by_cases hplace : l = name :: above
  · subst hplace
    rw [content?_appendAt_of_file hl, List.append_nil]
  · rw [content?_eq_of_node? (t.node?_appendAt_of_ne [] hplace), hl]

end Baseline.FileTree
