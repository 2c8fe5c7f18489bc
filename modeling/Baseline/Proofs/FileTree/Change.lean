import Baseline.Proofs.FileTree.Place

/-!
# What an operation changes

`t.ChangesOnly writes dirs t'` says how far a tree has moved from `t`: files
stand at the places of the paths `writes` that may be new or have new content,
directories at the places of `dirs` may be new, and everything else, what was
there before above all, is as it was.  It is reflexive, transitive and grows
with its two lists, and every operation on paths has a statement of this form:

* `ChangesOnly.of_writeFile`, `ChangesOnly.of_copyFile`: one file;
* `changesOnly_ensureDirectory`: directories on the way to one, whatever the
  outcome.

A path that is not written reads as before (`ChangesOnly.readFile`), a path that
was just written reads as it was written (`readFile_of_writeFile`).
-/

namespace Baseline.FileTree

open Path

/-! ### The two changes -/

theorem node?_setFile {t : FileTree} {above : Location} {name : Name} {data : Bytes} {x : Bool}
    (hd : t.node? above = some .directory) (hn : t.node? (name :: above) ≠ some .directory)
    (l : Location) :
    (t.setFile above name data x).node? l =
      if l = name :: above then some (.file data x) else t.node? l := by
  rw [setFile, dif_pos ⟨hd, hn⟩]
  exact nodeIn_setIn (by simp) l

@[simp] theorem start_setFile (t : FileTree) (above : Location) (name : Name) (data : Bytes)
    (x : Bool) : (t.setFile above name data x).start = t.start := by
  unfold setFile
  split <;> rfl

theorem node?_addDirectory {t : FileTree} {above : Location} {name : Name}
    (hd : t.node? above = some .directory) (hn : t.node? (name :: above) = none) (l : Location) :
    (t.addDirectory above name).node? l =
      if l = name :: above then some .directory else t.node? l := by
  rw [addDirectory, dif_pos ⟨hd, hn⟩]
  exact nodeIn_setIn (by simp) l

@[simp] theorem start_addDirectory (t : FileTree) (above : Location) (name : Name) :
    (t.addDirectory above name).start = t.start := by
  unfold addDirectory
  split <;> rfl

/-! ### The relation -/

/-- Files are written at the places of `writes` only and directories made at the places of `dirs`
only; nothing goes away and nothing turns from one into the other. -/
structure ChangesOnly (writes dirs : List Path) (t t' : FileTree) : Prop where
  start : t'.start = t.start
  node : ∀ l, t'.node? l = t.node? l ∨
    ((∃ p ∈ writes, t.place p = l) ∧ t.node? l ≠ some .directory ∧
      ∃ data x, t'.node? l = some (.file data x)) ∨
    ((∃ p ∈ dirs, t.place p = l) ∧ t.node? l = none ∧ t'.node? l = some .directory)

namespace ChangesOnly

variable {writes dirs : List Path} {t t' t'' : FileTree}

theorem refl (writes dirs : List Path) (t : FileTree) : ChangesOnly writes dirs t t :=
  ⟨rfl, fun _ => Or.inl rfl⟩

theorem place (h : ChangesOnly writes dirs t t') (p : Path) : t'.place p = t.place p :=
  place_congr h.start p

theorem trans (h : ChangesOnly writes dirs t t') (h' : ChangesOnly writes dirs t' t'') :
    ChangesOnly writes dirs t t'' := by
  refine ⟨h'.start.trans h.start, fun l => ?_⟩
  have hplace : ∀ ps : List Path, (∃ p ∈ ps, t'.place p = l) → ∃ p ∈ ps, t.place p = l := by
    rintro ps ⟨p, hp, hl⟩
    exact ⟨p, hp, (h.place p).symm.trans hl⟩
  rcases h'.node l with he | ⟨hw, hn, hf⟩ | ⟨hm, hn, hd⟩
  · rw [he]
    exact h.node l
  · -- a directory that was made on the way is not written over
    rcases h.node l with he | ⟨-, hn', -⟩ | ⟨-, -, hd'⟩
    · exact Or.inr (Or.inl ⟨hplace _ hw, he ▸ hn, hf⟩)
    · exact Or.inr (Or.inl ⟨hplace _ hw, hn', hf⟩)
    · exact absurd hd' hn
  · rcases h.node l with he | ⟨-, -, data, x, hf⟩ | ⟨-, -, hd'⟩
    · exact Or.inr (Or.inr ⟨hplace _ hm, he ▸ hn, hd⟩)
    · simp [hf] at hn
    · simp [hd'] at hn

theorem mono {writes' dirs' : List Path} (h : ChangesOnly writes dirs t t')
    (hw : ∀ p ∈ writes, p ∈ writes') (hd : ∀ p ∈ dirs, p ∈ dirs') :
    ChangesOnly writes' dirs' t t' := by
  refine ⟨h.start, fun l => ?_⟩
  rcases h.node l with he | ⟨⟨p, hp, hl⟩, hrest⟩ | ⟨⟨p, hp, hl⟩, hrest⟩
  · exact Or.inl he
  · exact Or.inr (Or.inl ⟨⟨p, hw p hp, hl⟩, hrest⟩)
  · exact Or.inr (Or.inr ⟨⟨p, hd p hp, hl⟩, hrest⟩)

/-- Directories stay. -/
theorem directory (h : ChangesOnly writes dirs t t') {l : Location}
    (hl : t.node? l = some .directory) : t'.node? l = some .directory := by
  rcases h.node l with he | ⟨-, hn, -⟩ | ⟨-, -, hd⟩
  · rw [he, hl]
  · exact absurd hl hn
  · exact hd

/-- **Nothing goes away.** -/
theorem ne_none (h : ChangesOnly writes dirs t t') {l : Location} (hl : t.node? l ≠ none) :
    t'.node? l ≠ none := by
  rcases h.node l with he | ⟨-, -, data, x, hf⟩ | ⟨-, -, hd⟩
  · rwa [he]
  · simp [hf]
  · simp [hd]

/-- Where nothing is written the same files stand. -/
theorem file_iff (h : ChangesOnly writes dirs t t') {l : Location} (hw : ∀ p ∈ writes, t.place p ≠ l)
    (data : Bytes) (x : Bool) :
    t'.node? l = some (.file data x) ↔ t.node? l = some (.file data x) := by
  rcases h.node l with he | ⟨⟨p, hp, he⟩, -⟩ | ⟨-, hn, hd⟩
  · rw [he]
  · exact absurd he (hw p hp)
  · simp [hn, hd]

/-- **A file that is not written stays as it is.** -/
theorem file (h : ChangesOnly writes dirs t t') {l : Location} {data : Bytes} {x : Bool}
    (hl : t.node? l = some (.file data x)) (hw : ∀ p ∈ writes, t.place p ≠ l) :
    t'.node? l = some (.file data x) :=
  (h.file_iff hw data x).mpr hl

theorem walk (h : ChangesOnly writes dirs t t') {loc l : Location} {steps : List Step}
    (hw : t.walk loc steps = .ok l) : t'.walk loc steps = .ok l :=
  walk_of_kept (fun _ => h.directory) (fun _ => h.ne_none) hw

theorem origin (h : ChangesOnly writes dirs t t') (p : Path) : t'.origin p = t.origin p := by
  rw [FileTree.origin, FileTree.origin, h.start]

end ChangesOnly

/-! ### Reading -/

theorem locate_eq_ok {t : FileTree} {p : Path} {l : Location} :
    t.locate p = .ok l ↔ refuse? p = none ∧ t.walk (t.origin p) (stepsOf p) = .ok l ∧
      (endsInSlash p = true → t.node? l = some .directory) := by
  unfold locate
  cases hr : refuse? p with
  | some e => simp
  | none =>
    cases hw : t.walk (t.origin p) (stepsOf p) with
    | error e => simp
    | ok loc =>
      by_cases hs : endsInSlash p && t.node? loc != some .directory
      · simp only [hs, if_true, reduceCtorEq, Except.ok.injEq, true_and, false_iff, not_and]
        simp only [Bool.and_eq_true, bne_iff_ne] at hs
        rintro rfl hd
        exact hs.2 (hd hs.1)
      · simp only [hs, Bool.false_eq_true, if_false, Except.ok.injEq, true_and]
        simp only [Bool.and_eq_true, bne_iff_ne, not_and, Decidable.not_not] at hs
        exact ⟨fun h => ⟨h, h ▸ hs⟩, fun h => h.1⟩

theorem readFile_eq_ok {t : FileTree} {p : Path} {data : Bytes} :
    t.readFile p = .ok data ↔ ∃ l x, t.locate p = .ok l ∧ t.node? l = some (.file data x) := by
  unfold readFile
  cases hl : t.locate p with
  | error e => simp
  | ok loc =>
    cases hn : t.node? loc with
    | none => simp [hn]
    | some node =>
      cases node with
      | directory => simp [hn]
      | file d x =>
        simp only [hn, Except.ok.injEq]
        constructor
        · rintro rfl
          exact ⟨loc, x, rfl, hn⟩
        · rintro ⟨l, y, rfl, hn'⟩
          rw [hn, Option.some.injEq, Node.file.injEq] at hn'
          exact hn'.1

theorem place_of_locate {t : FileTree} {p : Path} {l : Location} (h : t.locate p = .ok l) :
    t.place p = l := (place_of_walk (locate_eq_ok.mp h).2.1).symm

/-- **What is not written reads as before.** -/
theorem ChangesOnly.readFile {writes dirs : List Path} {t t' : FileTree}
    (h : ChangesOnly writes dirs t t') {p : Path} {data : Bytes} (hr : t.readFile p = .ok data)
    (hw : ∀ q ∈ writes, t.place q ≠ t.place p) : t'.readFile p = .ok data := by
  obtain ⟨l, x, hl, hn⟩ := readFile_eq_ok.mp hr
  obtain ⟨hrefuse, hwalk, hs⟩ := locate_eq_ok.mp hl
  refine readFile_eq_ok.mpr ⟨l, x, locate_eq_ok.mpr ⟨hrefuse, ?_, fun he => ?_⟩, ?_⟩
  · rw [h.origin]
    exact h.walk hwalk
  · exact h.directory (hs he)
  · exact h.file hn (place_of_locate hl ▸ hw)

/-- What reads keeps reading, though maybe as something else. -/
theorem ChangesOnly.exists_readFile {writes dirs : List Path} {t t' : FileTree}
    (h : ChangesOnly writes dirs t t') {p : Path} {data : Bytes} (hr : t.readFile p = .ok data) :
    ∃ data', t'.readFile p = .ok data' := by
  obtain ⟨l, x, hl, hn⟩ := readFile_eq_ok.mp hr
  obtain ⟨hrefuse, hwalk, hs⟩ := locate_eq_ok.mp hl
  have hl' : t'.locate p = .ok l :=
    locate_eq_ok.mpr ⟨hrefuse, h.origin p ▸ h.walk hwalk, fun he => h.directory (hs he)⟩
  rcases h.node l with he | ⟨-, -, data', x', hf⟩ | ⟨-, hnone, -⟩
  · exact ⟨data, readFile_eq_ok.mpr ⟨l, x, hl', he.trans hn⟩⟩
  · exact ⟨data', readFile_eq_ok.mpr ⟨l, x', hl', hf⟩⟩
  · simp [hn] at hnone

/-- The content of the file at a location, if there is one. -/
def content? (t : FileTree) (l : Location) : Option Bytes :=
  match t.node? l with
  | some (.file data _) => some data
  | _ => none

theorem ChangesOnly.content? {writes dirs : List Path} {t t' : FileTree}
    (h : ChangesOnly writes dirs t t') {l : Location} (hw : ∀ p ∈ writes, t.place p ≠ l) :
    t'.content? l = t.content? l := by
  unfold FileTree.content?
  rcases h.node l with he | ⟨⟨p, hp, he⟩, -⟩ | ⟨-, hnone, hd⟩
  · rw [he]
  · exact absurd he (hw p hp)
  · rw [hnone, hd]

/-- A content that changes stands where something was written. -/
theorem ChangesOnly.exists_place {writes dirs : List Path} {t t' : FileTree}
    (h : ChangesOnly writes dirs t t') {l : Location} (hl : t'.content? l ≠ t.content? l) :
    ∃ p ∈ writes, t.place p = l := by
  apply Classical.byContradiction
  intro hnone
  apply hl
  apply h.content?
  intro p hp he
  exact hnone ⟨p, hp, he⟩

theorem content?_of_readFile {t : FileTree} {p : Path} {data : Bytes}
    (h : t.readFile p = .ok data) : t.content? (t.place p) = some data := by
  obtain ⟨l, x, hl, hn⟩ := readFile_eq_ok.mp h
  rw [content?, place_of_locate hl, hn]

/-! ### Writing -/

theorem writeFile_eq_ok {t t' : FileTree} {p : Path} {data : Bytes} :
    t.writeFile p data = .ok t' ↔ ∃ above name, t.openForWriting p = .ok (above, name) ∧
      t' = t.setFile above name data (t.isExecutable (name :: above)) := by
  unfold writeFile
  cases ho : t.openForWriting p with
  | error e => simp
  | ok s =>
    obtain ⟨above, name⟩ := s
    constructor
    · intro h
      exact ⟨above, name, rfl, (Except.ok.inj h).symm⟩
    · rintro ⟨above', name', he, rfl⟩
      obtain ⟨rfl, rfl⟩ := Prod.mk.inj (Except.ok.inj he)
      rfl

/-- A file set where a path opens for writing is the only change. -/
theorem changesOnly_setFile {t : FileTree} {p : Path} {above : Location} {name : Name}
    (ho : t.openForWriting p = .ok (above, name)) (data : Bytes) (x : Bool) :
    ChangesOnly [p] [] t (t.setFile above name data x) := by
  obtain ⟨hslot, -, -, hn⟩ := openForWriting_eq_ok.mp ho
  obtain ⟨-, before, -, -, hd⟩ := slot_eq_entry.mp hslot
  refine ⟨by simp, fun l => ?_⟩
  rw [node?_setFile hd hn]
  by_cases hl : l = name :: above
  · subst hl
    exact Or.inr (Or.inl ⟨⟨p, by simp, place_of_slot hslot⟩, hn, data, x, by simp⟩)
  · exact Or.inl (by rw [if_neg hl])

theorem ChangesOnly.of_writeFile {t t' : FileTree} {p : Path} {data : Bytes}
    (h : t.writeFile p data = .ok t') : ChangesOnly [p] [] t t' := by
  obtain ⟨above, name, ho, rfl⟩ := writeFile_eq_ok.mp h
  exact changesOnly_setFile ho data _

/-- A file set where a path opens for writing is read there. -/
theorem readFile_setFile {t : FileTree} {p : Path} {above : Location} {name : Name}
    (ho : t.openForWriting p = .ok (above, name)) (data : Bytes) (x : Bool) :
    (t.setFile above name data x).readFile p = .ok data := by
  have hc := changesOnly_setFile ho data x
  obtain ⟨hslot, hend, hlong, hn⟩ := openForWriting_eq_ok.mp ho
  obtain ⟨hrefuse, before, hsteps, hwalk, hd⟩ := slot_eq_entry.mp hslot
  have hnode : ∀ l, (t.setFile above name data x).node? l =
      if l = name :: above then some (.file data x) else t.node? l := node?_setFile hd hn
  refine readFile_eq_ok.mpr ⟨name :: above, _, locate_eq_ok.mpr ⟨hrefuse, ?_, ?_⟩,
    (hnode _).trans (if_pos rfl)⟩
  · rw [hsteps, hc.origin]
    refine walk_append_eq_ok.mpr ⟨above, hc.walk hwalk,
      walk_cons_eq_ok.mpr ⟨hc.directory hd, ⟨hlong, ?_⟩, rfl⟩⟩
    rw [hnode, if_pos rfl]
    simp
  · simp [hend]

/-- **What was just written reads as it was written.** -/
theorem readFile_of_writeFile {t t' : FileTree} {p : Path} {data : Bytes}
    (h : t.writeFile p data = .ok t') : t'.readFile p = .ok data := by
  obtain ⟨above, name, ho, rfl⟩ := writeFile_eq_ok.mp h
  exact readFile_setFile ho data _

/-- A copy is written with what its source holds, or with nothing when it is copied onto itself. -/
theorem copyFile_eq_ok {t t' : FileTree} {source destination : Path} :
    t.copyFile source destination = .ok t' ↔ ∃ from_ data x above name,
      t.locate source = .ok from_ ∧ t.node? from_ = some (.file data x) ∧
      t.openForWriting destination = .ok (above, name) ∧
      t' = t.setFile above name (if name :: above = from_ then [] else data) x := by
  unfold copyFile
  cases hl : t.locate source with
  | error e => simp
  | ok from_ =>
    cases hn : t.node? from_ with
    | none => simp [hn]
    | some node =>
      cases node with
      | directory => simp [hn]
      | file data x =>
        cases ho : t.openForWriting destination with
        | error e => simp [hn]
        | ok s =>
          obtain ⟨above, name⟩ := s
          simp only [hn, Except.ok.injEq]
          constructor
          · rintro rfl
            exact ⟨from_, data, x, above, name, rfl, hn, rfl, rfl⟩
          · rintro ⟨_, _, _, _, _, rfl, hn', ho', rfl⟩
            rw [hn, Option.some.injEq, Node.file.injEq] at hn'
            obtain ⟨rfl, rfl⟩ := hn'
            obtain ⟨rfl, rfl⟩ := Prod.mk.inj ho'
            rfl

theorem ChangesOnly.of_copyFile {t t' : FileTree} {source destination : Path}
    (h : t.copyFile source destination = .ok t') : ChangesOnly [destination] [] t t' := by
  obtain ⟨-, data, x, above, name, -, -, ho, rfl⟩ := copyFile_eq_ok.mp h
  exact changesOnly_setFile ho _ _

/-! ### Making directories -/

theorem makeDirectory_eq_ok {t t' : FileTree} {p : Path} :
    t.makeDirectory p = .ok t' ↔ ∃ above name, t.slot p = .ok (.entry above name) ∧
      name.length ≤ longestName ∧ t.node? (name :: above) = none ∧
      t' = t.addDirectory above name := by
  unfold makeDirectory
  cases hs : t.slot p with
  | error e => simp
  | ok s =>
    cases s with
    | taken loc => simp
    | entry above name =>
      simp only [Except.ok.injEq, Slot.entry.injEq]
      by_cases hlong : longestName < name.length
      · simp only [if_pos hlong, reduceCtorEq, false_iff]
        rintro ⟨above', name', ⟨rfl, rfl⟩, hle, -⟩
        exact absurd hle (Nat.not_le_of_lt hlong)
      · rw [if_neg hlong]
        cases hn : t.node? (name :: above) with
        | some node =>
          simp only [Option.isSome_some, if_true, reduceCtorEq, false_iff]
          rintro ⟨above', name', ⟨rfl, rfl⟩, -, hnone, -⟩
          simp [hn] at hnone
        | none =>
          simp only [Option.isSome_none, Bool.false_eq_true, if_false, Except.ok.injEq]
          constructor
          · rintro rfl
            exact ⟨above, name, ⟨rfl, rfl⟩, Nat.le_of_not_lt hlong, hn, rfl⟩
          · rintro ⟨above', name', ⟨rfl, rfl⟩, -, -, rfl⟩
            rfl

theorem ChangesOnly.of_makeDirectory {t t' : FileTree} {p : Path}
    (h : t.makeDirectory p = .ok t') : ChangesOnly [] [p] t t' := by
  obtain ⟨above, name, hs, -, hn, rfl⟩ := makeDirectory_eq_ok.mp h
  obtain ⟨-, before, -, -, hd⟩ := slot_eq_entry.mp hs
  refine ⟨by simp, fun l => ?_⟩
  rw [node?_addDirectory hd hn]
  by_cases hl : l = name :: above
  · subst hl
    exact Or.inr (Or.inr ⟨⟨p, by simp, place_of_slot hs⟩, hn, if_pos rfl⟩)
  · exact Or.inl (if_neg hl)

theorem changesOnly_makeAncestors (t : FileTree) (ps : List Path) :
    ChangesOnly [] ps t (t.makeAncestors ps).2 := by
  induction ps generalizing t with
  | nil => exact .refl _ _ t
  | cons p above ih =>
    -- one directory made at `p`
    have hone : ∀ {t t' : FileTree}, t.makeDirectory p = .ok t' →
        ChangesOnly [] (p :: above) t t' := fun h =>
      (ChangesOnly.of_makeDirectory h).mono (fun _ h => h) (by simp)
    have habove := (ih t).mono (fun _ h => h) (fun q hq => List.mem_cons_of_mem p hq)
    simp only [makeAncestors]
    split
    · exact .refl _ _ t
    · split
      · rename_i made hm
        exact hone hm
      · split
        · split
          · rename_i e' t' hrec
            rw [hrec] at habove
            exact habove
          · rename_i t' hrec
            rw [hrec] at habove
            split
            · rename_i made hm
              exact habove.trans (hone hm)
            · split <;> exact habove
        · split <;> exact .refl _ _ t

/-- **Making a directory** makes directories on the way to it at most. -/
theorem changesOnly_ensureDirectory (t : FileTree) (p : Path) :
    ChangesOnly [] p.ancestors t (t.ensureDirectory p).2 := changesOnly_makeAncestors t p.ancestors

end Baseline.FileTree
