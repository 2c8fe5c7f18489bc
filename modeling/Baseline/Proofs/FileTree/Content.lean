import Baseline.Proofs.FileTree.Change

/-!
# Files that are there

A path names a file exactly when it can be read (`isFile_iff`), and it goes on to
do so whatever file work comes after (`ChangesOnly.isFile`).

Writing what has just been written is no change at all (`writeFile_again`): the
tree is the same, not only what can be seen of it.  A copy holds what its source
held, unless the two are one file, which is emptied (`readFile_of_copyFile`).
-/

namespace Baseline.FileTree

open Path

/-! ### Files -/

theorem isFile_iff {t : FileTree} {p : Path} :
    t.isFile p = true ↔ ∃ data, t.readFile p = .ok data := by
  unfold isFile at? readFile
  cases hl : t.locate p with
  | error e => simp
  | ok l =>
    cases hn : t.node? l with
    | none => simp [hn]
    | some node => cases node <;> simp [hn]

theorem isFile_of_readFile {t : FileTree} {p : Path} {data : Bytes}
    (h : t.readFile p = .ok data) : t.isFile p = true := isFile_iff.mpr ⟨data, h⟩

/-- **A file stays a file.** -/
theorem ChangesOnly.isFile {writes dirs : List Path} {t t' : FileTree}
    (h : ChangesOnly writes dirs t t') {p : Path} (hp : t.isFile p = true) :
    t'.isFile p = true := by
  obtain ⟨data, hdata⟩ := isFile_iff.mp hp
  exact isFile_iff.mpr (h.exists_readFile hdata)

/-- Two paths that lead to one place read the same. -/
theorem eq_of_place_eq {t : FileTree} {p q : Path} {data data' : Bytes}
    (hp : t.readFile p = .ok data) (hq : t.content? (t.place q) = some data')
    (h : t.place p = t.place q) : data = data' := by
  rw [← h, content?_of_readFile hp] at hq
  exact Option.some.inj hq

/-! ### Files that may be missing -/

/-- Nothing is at a path. -/
def Missing (t : FileTree) (p : Path) : Prop :=
  ∃ fault, t.readFile p = .error fault ∧ fault.kind = .notFound

/-- What a path counts as when a missing file counts as empty. -/
def CountsAs (t : FileTree) (p : Path) (data : Bytes) : Prop :=
  t.readFile p = .ok data ∨ data = [] ∧ t.Missing p

/-- Only an empty content can be that of a missing file. -/
theorem CountsAs.readFile {t : FileTree} {p : Path} {data : Bytes} (h : t.CountsAs p data)
    (hne : data ≠ []) : t.readFile p = .ok data := h.resolve_right fun he => hne he.1

theorem CountsAs.readFile_of_isFile {t : FileTree} {p : Path} {data : Bytes}
    (h : t.CountsAs p data) (hp : t.isFile p = true) : t.readFile p = .ok data := by
  rcases h with hread | ⟨-, fault, hfault, -⟩
  · exact hread
  · obtain ⟨data', hread⟩ := isFile_iff.mp hp
    simp [hread] at hfault

theorem CountsAs.missing_of_not_isFile {t : FileTree} {p : Path} {data : Bytes}
    (h : t.CountsAs p data) (hp : t.isFile p = false) : data = [] ∧ t.Missing p := by
  refine h.resolve_left fun hread => ?_
  simp [isFile_of_readFile hread] at hp

theorem CountsAs.unique {t : FileTree} {p : Path} {data data' : Bytes} (h : t.CountsAs p data)
    (h' : t.CountsAs p data') : data = data' := by
  rcases h with hread | ⟨rfl, fault, hfault, -⟩ <;>
    rcases h' with hread' | ⟨rfl, fault', hfault', -⟩
  · exact Except.ok.inj (hread.symm.trans hread')
  · simp [hread] at hfault'
  · simp [hread'] at hfault
  · rfl

/-! ### Writing again -/

theorem eq_of_entries {t t' : FileTree} (he : t'.entries = t.entries) (hs : t'.start = t.start) :
    t' = t := by
  cases t
  cases t'
  cases he
  cases hs
  rfl

theorem setIn_setIn (entries : List (Location × Node)) (loc : Location) (node : Node) :
    setIn (setIn entries loc node) loc node = setIn entries loc node := by
  simp [setIn, List.filter_filter]

theorem entries_setFile {t : FileTree} {above : Location} {name : Name} {data : Bytes} {x : Bool}
    (hd : t.node? above = some .directory) (hn : t.node? (name :: above) ≠ some .directory) :
    (t.setFile above name data x).entries = setIn t.entries (name :: above) (.file data x) := by
  unfold setFile
  rw [dif_pos ⟨hd, hn⟩]

theorem setFile_setFile {t : FileTree} {above : Location} {name : Name} {data : Bytes} {x : Bool}
    (hd : t.node? above = some .directory) (hn : t.node? (name :: above) ≠ some .directory) :
    (t.setFile above name data x).setFile above name data x = t.setFile above name data x := by
  have hset : ∀ l, (t.setFile above name data x).node? l =
      if l = name :: above then some (.file data x) else t.node? l := node?_setFile hd hn
  have hd' : (t.setFile above name data x).node? above = some .directory := by
    rw [hset, if_neg (List.cons_ne_self name above).symm, hd]
  have hn' : (t.setFile above name data x).node? (name :: above) ≠ some .directory := by
    simp [hset]
  refine eq_of_entries ?_ (by simp)
  rw [entries_setFile hd' hn', entries_setFile hd hn, setIn_setIn]

theorem isExecutable_of_node? {t : FileTree} {l : Location} {data : Bytes} {x : Bool}
    (h : t.node? l = some (.file data x)) : t.isExecutable l = x := by
  rw [isExecutable, h]

/-- **Writing what has just been written changes nothing.** -/
theorem writeFile_again {t t' : FileTree} {p : Path} {data : Bytes}
    (h : t.writeFile p data = .ok t') : t'.writeFile p data = .ok t' := by
  have hc := ChangesOnly.of_writeFile h
  obtain ⟨above, name, ho, rfl⟩ := writeFile_eq_ok.mp h
  obtain ⟨hslot, hend, hlong, hn⟩ := openForWriting_eq_ok.mp ho
  obtain ⟨hrefuse, before, hsteps, hwalk, hd⟩ := slot_eq_entry.mp hslot
  have hnode : (t.setFile above name data (t.isExecutable (name :: above))).node? (name :: above) =
      some (.file data (t.isExecutable (name :: above))) :=
    (node?_setFile hd hn (name :: above)).trans (if_pos rfl)
  refine writeFile_eq_ok.mpr ⟨above, name, openForWriting_eq_ok.mpr
    ⟨slot_eq_entry.mpr ⟨hrefuse, before, hsteps, ?_, hc.directory hd⟩, hend, hlong, ?_⟩, ?_⟩
  · rw [hc.origin]
    exact hc.walk hwalk
  · simp [hnode]
  · rw [isExecutable_of_node? hnode]
    exact (setFile_setFile hd hn).symm

/-! ### Copies -/

/-- **A copy holds what its source held**; a file copied onto itself is emptied. -/
theorem readFile_of_copyFile {t t' : FileTree} {source destination : Path}
    (h : t.copyFile source destination = .ok t') :
    ∃ data, t.content? (t.place source) = some data ∧
      t'.readFile destination =
        .ok (if t.place source = t.place destination then [] else data) := by
  obtain ⟨from_, data, x, above, name, hl, hn, ho, rfl⟩ := copyFile_eq_ok.mp h
  have hsource : t.place source = from_ := place_of_locate hl
  have hdestination : t.place destination = name :: above :=
    place_of_slot (openForWriting_eq_ok.mp ho).1
  refine ⟨data, by rw [hsource, content?, hn], ?_⟩
  rw [readFile_setFile ho, hsource, hdestination]
  simp only [eq_comm]

/-- After a copy both files read the same. -/
theorem readFile_both_of_copyFile {t t' : FileTree} {source destination : Path} {data : Bytes}
    (h : t.copyFile source destination = .ok t') (hdata : t.readFile source = .ok data) :
    t'.readFile destination = .ok (if t.place source = t.place destination then [] else data) ∧
      t'.readFile source = .ok (if t.place source = t.place destination then [] else data) := by
  obtain ⟨data', hcontent, hcopy⟩ := readFile_of_copyFile h
  obtain rfl : data = data' :=
    Option.some.inj ((content?_of_readFile hdata).symm.trans hcontent)
  have hc := ChangesOnly.of_copyFile h
  refine ⟨hcopy, ?_⟩
  by_cases hsame : t.place source = t.place destination
  · obtain ⟨left, hleft⟩ := hc.exists_readFile hdata
    rw [hleft, eq_of_place_eq hleft (content?_of_readFile hcopy) (by rw [hc.place, hc.place, hsame])]
  · rw [if_neg hsame]
    refine hc.readFile hdata fun q hq => ?_
    rw [List.mem_singleton.mp hq]
    exact Ne.symm hsame

end Baseline.FileTree
