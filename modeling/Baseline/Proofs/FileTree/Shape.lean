import Baseline.Proofs.FileTree.Content

/-!
# Trees of the same shape

Two trees have the same shape when directories stand at the same places in both, and
files do (`SameShape`); what the files hold may differ.  Where a path leads and whether an
operation can be done hangs on the shape alone (`SameShape.locate`,
`SameShape.openForWriting`), so every operation ends alike in two such trees and leaves them in the
same shape.
-/

namespace Baseline.FileTree

/-- What is at a location, but for what a file holds: whether it is a directory. -/
def shape? (t : FileTree) (l : Location) : Option Bool :=
  (t.node? l).map fun node => decide (node = .directory)

/-- Directories stand at the same places, and files do. -/
structure SameShape (t t' : FileTree) : Prop where
  start : t'.start = t.start
  shape : ∀ l, t'.shape? l = t.shape? l

theorem shape?_eq_some_true {t : FileTree} {l : Location} :
    t.shape? l = some true ↔ t.node? l = some .directory := by
  simp [shape?]

theorem shape?_eq_none {t : FileTree} {l : Location} : t.shape? l = none ↔ t.node? l = none := by
  simp [shape?]

variable {t t' : FileTree}

namespace SameShape

theorem directory_iff (h : SameShape t t') {l : Location} :
    t'.node? l = some .directory ↔ t.node? l = some .directory := by
  rw [← shape?_eq_some_true, ← shape?_eq_some_true, h.shape]

theorem none_iff (h : SameShape t t') {l : Location} : t'.node? l = none ↔ t.node? l = none := by
  rw [← shape?_eq_none, ← shape?_eq_none, h.shape]

theorem exists_file (h : SameShape t t') {l : Location} {data : Bytes} {x : Bool}
    (hl : t.node? l = some (.file data x)) :
    ∃ data' x', t'.node? l = some (.file data' x') := by
  cases hl' : t'.node? l with
  | none =>
    rw [h.none_iff.mp hl'] at hl
    simp at hl
  | some node =>
    cases node with
    | directory =>
      rw [h.directory_iff.mp hl'] at hl
      simp at hl
    | file data' x' => exact ⟨data', x', rfl⟩

/-! ### Where paths lead -/

theorem origin (h : SameShape t t') (p : Path) : t'.origin p = t.origin p := by
  rw [FileTree.origin, FileTree.origin, h.start]

theorem walk (h : SameShape t t') (loc : Location) (steps : List Step) :
    t'.walk loc steps = t.walk loc steps := by
  induction steps generalizing loc with
  | nil => rfl
  | cons s rest ih =>
    have hnone : ∀ l, (t'.node? l).isNone = (t.node? l).isNone := by
      intro l
      rw [Bool.eq_iff_iff, Option.isNone_iff_eq_none, Option.isNone_iff_eq_none, h.none_iff]
    cases s <;> simp only [FileTree.walk, h.directory_iff, hnone, ih]

theorem locate (h : SameShape t t') (p : Path) : t'.locate p = t.locate p := by
  have hdirectory : ∀ l, (t'.node? l != some .directory) = (t.node? l != some .directory) := by
    intro l
    rw [Bool.eq_iff_iff, bne_iff_ne, bne_iff_ne, ne_eq, ne_eq, h.directory_iff]
  simp only [FileTree.locate, h.origin, h.walk, hdirectory]

theorem slot (h : SameShape t t') (p : Path) : t'.slot p = t.slot p := by
  simp only [FileTree.slot, h.origin, h.walk, h.directory_iff]

theorem openForWriting (h : SameShape t t') (p : Path) :
    t'.openForWriting p = t.openForWriting p := by
  simp only [FileTree.openForWriting, h.slot, h.directory_iff]

theorem isFile (h : SameShape t t') (p : Path) : t'.isFile p = t.isFile p := by
  unfold FileTree.isFile at?
  rw [h.locate]
  cases t.locate p with
  | error e => rfl
  | ok l =>
    dsimp only
    cases hl : t.node? l with
    | none => rw [h.none_iff.mpr hl]
    | some node =>
      cases node with
      | directory => rw [h.directory_iff.mpr hl]
      | file data x =>
        obtain ⟨data', x', hl'⟩ := h.exists_file hl
        rw [hl']

theorem isDirectory (h : SameShape t t') (p : Path) : t'.isDirectory p = t.isDirectory p := by
  unfold FileTree.isDirectory at?
  rw [h.locate]
  cases t.locate p with
  | error e => rfl
  | ok l =>
    dsimp only
    rw [Bool.eq_iff_iff, beq_iff_eq, beq_iff_eq, h.directory_iff]

/-! ### The two changes -/

theorem setFile (h : SameShape t t') (above : Location) (name : Name) (data data' : Bytes)
    (x x' : Bool) :
    SameShape (t.setFile above name data x) (t'.setFile above name data' x') := by
  have hsame : t'.node? above = some .directory ∧ t'.node? (name :: above) ≠ some .directory ↔
      t.node? above = some .directory ∧ t.node? (name :: above) ≠ some .directory :=
    and_congr h.directory_iff (not_congr h.directory_iff)
  by_cases hset : t.node? above = some .directory ∧ t.node? (name :: above) ≠ some .directory
  · have hset' := hsame.mpr hset
    refine ⟨by rw [start_setFile, start_setFile, h.start], fun l => ?_⟩
    unfold shape?
    rw [node?_setFile hset.1 hset.2, node?_setFile hset'.1 hset'.2]
    by_cases hl : l = name :: above
    · rw [if_pos hl, if_pos hl]
      rfl
    · rw [if_neg hl, if_neg hl]
      exact h.shape l
  · rw [FileTree.setFile, dif_neg hset, FileTree.setFile, dif_neg (mt hsame.mp hset)]
    exact h

theorem addDirectory (h : SameShape t t') (above : Location) (name : Name) :
    SameShape (t.addDirectory above name) (t'.addDirectory above name) := by
  have hsame : t'.node? above = some .directory ∧ t'.node? (name :: above) = none ↔
      t.node? above = some .directory ∧ t.node? (name :: above) = none :=
    and_congr h.directory_iff h.none_iff
  by_cases hadd : t.node? above = some .directory ∧ t.node? (name :: above) = none
  · have hadd' := hsame.mpr hadd
    refine ⟨by rw [start_addDirectory, start_addDirectory, h.start], fun l => ?_⟩
    unfold shape?
    rw [node?_addDirectory hadd.1 hadd.2, node?_addDirectory hadd'.1 hadd'.2]
    by_cases hl : l = name :: above
    · rw [if_pos hl, if_pos hl]
    · rw [if_neg hl, if_neg hl]
      exact h.shape l
  · rw [FileTree.addDirectory, dif_neg hadd, FileTree.addDirectory, dif_neg (mt hsame.mp hadd)]
    exact h

end SameShape

/-! ### Operations on paths -/

/-- The same fault, or trees that are related by `R` again. -/
inductive EndAlike (R : FileTree → FileTree → Prop) :
    Except Fault FileTree → Except Fault FileTree → Prop
  | error (e : Fault) : EndAlike R (.error e) (.error e)
  | ok {s s' : FileTree} (h : R s s') : EndAlike R (.ok s) (.ok s')

namespace SameShape

/-- **A file is written in both trees**, whatever it is to hold. -/
theorem writeFile (h : SameShape t t') (p : Path) (data data' : Bytes) :
    EndAlike SameShape (t.writeFile p data) (t'.writeFile p data') := by
  unfold FileTree.writeFile
  rw [h.openForWriting]
  cases t.openForWriting p with
  | error e => exact .error e
  | ok s => exact .ok (h.setFile _ _ _ _ _ _)

/-- **A file is copied in both trees**, whatever it holds. -/
theorem copyFile (h : SameShape t t') (source destination : Path) :
    EndAlike SameShape (t.copyFile source destination) (t'.copyFile source destination) := by
  unfold FileTree.copyFile
  rw [h.locate, h.openForWriting]
  cases t.locate source with
  | error e => exact .error e
  | ok from_ =>
    dsimp only
    cases hnode : t.node? from_ with
    | none =>
      rw [h.none_iff.mpr hnode]
      exact .error _
    | some node =>
      cases node with
      | directory =>
        rw [h.directory_iff.mpr hnode]
        exact .error _
      | file data x =>
        obtain ⟨data', x', hnode'⟩ := h.exists_file hnode
        rw [hnode']
        cases t.openForWriting destination with
        | error e => exact .error e
        | ok s => exact .ok (h.setFile _ _ _ _ _ _)

theorem makeDirectory (h : SameShape t t') (p : Path) :
    EndAlike SameShape (t.makeDirectory p) (t'.makeDirectory p) := by
  have hsome : ∀ l, (t'.node? l).isSome = (t.node? l).isSome := by
    intro l
    rw [Bool.eq_iff_iff, Option.isSome_iff_ne_none, Option.isSome_iff_ne_none, ne_eq, ne_eq,
      h.none_iff]
  unfold FileTree.makeDirectory
  rw [h.slot]
  cases t.slot p with
  | error e => exact .error e
  | ok s =>
    cases s with
    | taken loc => exact .error _
    | entry above name =>
      dsimp only
      rw [hsome]
      split
      · exact .error _
      · split
        · exact .error _
        · exact .ok (h.addDirectory above name)

/-- The directories on the way to one are made in both trees; by induction on them. -/
theorem makeAncestors (h : SameShape t t') (ps : List Path) :
    (t'.makeAncestors ps).1 = (t.makeAncestors ps).1 ∧
      SameShape (t.makeAncestors ps).2 (t'.makeAncestors ps).2 := by
  induction ps with
  | nil => exact ⟨rfl, h⟩
  | cons p above ih =>
    unfold FileTree.makeAncestors
    by_cases hp : p.bytes = []
    · rw [if_pos hp, if_pos hp]
      exact ⟨rfl, h⟩
    · rw [if_neg hp, if_neg hp, h.isDirectory]
      have hmake := h.makeDirectory p
      generalize t.makeDirectory p = s at hmake
      generalize t'.makeDirectory p = s' at hmake
      cases hmake with
      | ok hs => exact ⟨rfl, hs⟩
      | error e =>
        dsimp only
        by_cases hkind : e.kind = .notFound
        · rw [if_pos hkind, if_pos hkind]
          -- what is above is made first, and then it is tried again
          obtain ⟨hfirst, hsecond⟩ := ih
          generalize t.makeAncestors above = r at hfirst hsecond
          generalize t'.makeAncestors above = r' at hfirst hsecond
          obtain ⟨outcome, s⟩ := r
          obtain ⟨outcome', s'⟩ := r'
          obtain rfl : outcome' = outcome := hfirst
          cases outcome' with
          | error e' => exact ⟨rfl, hsecond⟩
          | ok =>
            dsimp only at hsecond ⊢
            rw [hsecond.isDirectory]
            have hagain := hsecond.makeDirectory p
            generalize s.makeDirectory p = q at hagain
            generalize s'.makeDirectory p = q' at hagain
            cases hagain with
            | ok hq => exact ⟨rfl, hq⟩
            | error e' =>
              dsimp only
              split
              · exact ⟨rfl, hsecond⟩
              · exact ⟨rfl, hsecond⟩
        · rw [if_neg hkind, if_neg hkind]
          split
          · exact ⟨rfl, h⟩
          · exact ⟨rfl, h⟩

/-- **A directory is made in both trees**, as far as that goes. -/
theorem ensureDirectory (h : SameShape t t') (p : Path) :
    (t'.ensureDirectory p).1 = (t.ensureDirectory p).1 ∧
      SameShape (t.ensureDirectory p).2 (t'.ensureDirectory p).2 := h.makeAncestors p.ancestors

end SameShape

end Baseline.FileTree
