import Baseline.Proofs.FileTree.Change

/-!
# Directories that are there

Making a directory that is there already does nothing and succeeds
(`ensureDirectory_of_isDirectory`), and once it has succeeded it succeeds again,
whatever file work comes between (`ensureDirectory_again`).

In a directory in which one name opens for writing, a name that is no longer
opens too, unless a directory has it (`openForWriting_sibling`).
-/

namespace Baseline.FileTree

open Path

/-! ### What makes a directory -/

theorem isDirectory_iff {t : FileTree} {p : Path} :
    t.isDirectory p = true ↔ refuse? p = none ∧ ∃ l, t.walk (t.origin p) (stepsOf p) = .ok l ∧
      t.node? l = some .directory := by
  unfold isDirectory at?
  rw [beq_iff_eq]
  cases hl : t.locate p with
  | error e =>
    simp only [reduceCtorEq, false_iff, not_and, not_exists]
    intro hrefuse l hw hd
    rw [locate_eq_ok.mpr ⟨hrefuse, hw, fun _ => hd⟩] at hl
    simp at hl
  | ok l =>
    obtain ⟨hrefuse, hw, -⟩ := locate_eq_ok.mp hl
    simp [hrefuse, hw]

theorem ChangesOnly.isDirectory {writes dirs : List Path} {t t' : FileTree}
    (h : ChangesOnly writes dirs t t') {p : Path} (hp : t.isDirectory p = true) :
    t'.isDirectory p = true := by
  obtain ⟨hrefuse, l, hw, hd⟩ := isDirectory_iff.mp hp
  exact isDirectory_iff.mpr ⟨hrefuse, l, by rw [h.origin]; exact h.walk hw, h.directory hd⟩

theorem isDirectory_of_makeDirectory {t t' : FileTree} {p : Path}
    (h : t.makeDirectory p = .ok t') : t'.isDirectory p = true := by
  have hc := ChangesOnly.of_makeDirectory h
  obtain ⟨above, name, hs, hlong, hn, rfl⟩ := makeDirectory_eq_ok.mp h
  obtain ⟨hrefuse, before, hsteps, hwalk, hd⟩ := slot_eq_entry.mp hs
  have hnode := (node?_addDirectory hd hn (name :: above)).trans (if_pos rfl)
  refine isDirectory_iff.mpr ⟨hrefuse, name :: above, ?_, hnode⟩
  rw [hc.origin, hsteps]
  refine walk_append_eq_ok.mpr ⟨above, hc.walk hwalk,
    walk_cons_eq_ok.mpr ⟨hc.directory hd, ⟨hlong, ?_⟩, rfl⟩⟩
  simp [hnode]

theorem ancestors_eq_cons (p : Path) : ∃ above, p.ancestors = p :: above := by
  unfold ancestors
  split
  · exact ⟨[], rfl⟩
  · dsimp only
    split <;> exact ⟨_, rfl⟩

/-- **What was made is there**, unless the path is empty. -/
theorem isDirectory_of_ensureDirectory {t t' : FileTree} {p : Path} (hp : p.bytes ≠ [])
    (h : t.ensureDirectory p = (.ok (), t')) : t'.isDirectory p = true := by
  obtain ⟨above, hancestors⟩ := ancestors_eq_cons p
  rw [ensureDirectory, hancestors, makeAncestors, if_neg hp] at h
  split at h
  · rename_i made hm
    obtain rfl : made = t' := by simpa using h
    exact isDirectory_of_makeDirectory hm
  · split at h
    · split at h
      · simp at h
      · split at h
        · rename_i made hm
          obtain rfl : made = t' := by simpa using h
          exact isDirectory_of_makeDirectory hm
        · split at h
          · rename_i hdir
            have ht := (Prod.mk.inj h).2
            exact ht ▸ hdir
          · simp at h
    · split at h
      · rename_i hdir
        obtain rfl : t = t' := by simpa using h
        exact hdir
      · simp at h

theorem makeDirectory_of_isDirectory {t : FileTree} {p : Path} (h : t.isDirectory p = true) :
    t.makeDirectory p = .error .exists_ := by
  obtain ⟨hrefuse, l, hwalk, hd⟩ := isDirectory_iff.mp h
  unfold makeDirectory slot
  rw [hrefuse]
  cases hl : (stepsOf p).getLast? with
  | none => rfl
  | some last =>
    obtain ⟨before, hb⟩ := List.getLast?_eq_some_iff.mp hl
    rw [hb] at hwalk
    obtain ⟨above, hbefore, hlast⟩ := walk_append_eq_ok.mp hwalk
    obtain ⟨habove, hallow, hend⟩ := walk_cons_eq_ok.mp hlast
    simp only [hb, List.dropLast_concat, hbefore, if_pos habove]
    cases last with
    | stay | up => rfl
    | down name =>
      -- the name leads to the directory itself
      obtain rfl : name :: above = l := Except.ok.inj hend
      simp [Nat.not_lt_of_le hallow.1, hd]

/-- **A directory that is there** is not made again. -/
theorem ensureDirectory_of_isDirectory {t : FileTree} {p : Path} (h : t.isDirectory p = true) :
    t.ensureDirectory p = (.ok (), t) := by
  obtain ⟨above, hancestors⟩ := ancestors_eq_cons p
  have hp : p.bytes ≠ [] := by
    intro hnil
    simp [isDirectory_iff, refuse?, hnil] at h
  rw [ensureDirectory, hancestors, makeAncestors, if_neg hp, makeDirectory_of_isDirectory h]
  simp only [h, if_true]
  exact if_neg (by decide)

/-- **What could be made once can be made again**, and then there is nothing to do. -/
theorem ensureDirectory_again {writes dirs : List Path} {t t' t'' : FileTree} {p : Path}
    (h : t.ensureDirectory p = (.ok (), t')) (hc : ChangesOnly writes dirs t' t'') :
    t''.ensureDirectory p = (.ok (), t'') := by
  by_cases hp : p.bytes = []
  · obtain ⟨above, hancestors⟩ := ancestors_eq_cons p
    rw [ensureDirectory, hancestors, makeAncestors, if_pos hp]
  · exact ensureDirectory_of_isDirectory (hc.isDirectory (isDirectory_of_ensureDirectory hp h))

/-! ### Names side by side -/

theorem refuse?_eq_none {p : Path} :
    refuse? p = none ↔ 0 ∉ p.bytes ∧ p.bytes ≠ [] ∧ p.bytes.length < pathLimit := by
  unfold refuse?
  split
  · simp_all
  · split
    · simp_all
    · split
      · simp_all [Nat.not_lt_of_le]
      · simp_all

theorem endsInSlash_append_name {b : Bytes} {n : Name} (h : IsName n) :
    endsInSlash ⟨b ++ n⟩ = false := by
  unfold endsInSlash
  rw [beq_eq_false_iff_ne]
  intro hl
  have hlast := List.getLast?_eq_some_getLast h.ne_nil
  rw [List.getLast?_append, hlast, Option.some_or, ← hlast] at hl
  exact h.no_slash (List.mem_of_getLast? hl)

/-- **Where one name opened for writing**, a shorter one still opens unless a directory has it. -/
theorem openForWriting_sibling {writes dirs : List Path} {t t' : FileTree} {p : Path}
    {n n' : Name} {above : Location} {name : Name} (hn : IsName n) (hn' : IsName n')
    (hlength : n'.length ≤ n.length) (hzero : 0 ∈ n' → 0 ∈ n)
    (h : t.openForWriting ⟨p.opened ++ n⟩ = .ok (above, name)) (hc : ChangesOnly writes dirs t t') :
    t'.openForWriting ⟨p.opened ++ n'⟩ =
      if t'.node? (t'.place ⟨p.opened ++ n'⟩) = some .directory then .error .isDirectory
      else .ok (above, n') := by
  obtain ⟨hslot, -, hlong, -⟩ := openForWriting_eq_ok.mp h
  obtain ⟨hrefuse, before, hsteps, hwalk, hd⟩ := slot_eq_entry.mp hslot
  rw [stepsOf_append (takesName_opened p), stepsOf_name hn] at hsteps
  obtain ⟨rfl, hname⟩ := List.append_inj' hsteps rfl
  obtain rfl : n = name := by simpa using hname
  have horigin : t'.origin ⟨p.opened ++ n'⟩ = t.origin ⟨p.opened ++ n⟩ := by
    rw [hc.origin, origin, origin, isAbsolute_opened_append (isAbsolute_name hn.no_slash),
      isAbsolute_opened_append (isAbsolute_name hn'.no_slash)]
  have hslot' : t'.slot ⟨p.opened ++ n'⟩ = .ok (.entry above n') := by
    refine slot_eq_entry.mpr
      ⟨?_, stepsOf ⟨p.opened⟩, ?_, horigin ▸ hc.walk hwalk, hc.directory hd⟩
    · obtain ⟨hbytes, -, hlimit⟩ := refuse?_eq_none.mp hrefuse
      simp only [List.mem_append, not_or, List.length_append] at hbytes hlimit
      refine refuse?_eq_none.mpr ⟨?_, by simp [hn'.ne_nil], ?_⟩
      · simp only [List.mem_append, not_or]
        exact ⟨hbytes.1, fun hz => hbytes.2 (hzero hz)⟩
      · rw [List.length_append]
        omega
    · rw [stepsOf_append (takesName_opened p), stepsOf_name hn']
  unfold openForWriting
  rw [hslot', place_of_slot hslot']
  simp only [endsInSlash_append_name hn', Bool.false_eq_true, if_false,
    if_neg (Nat.not_lt_of_le (Nat.le_trans hlength hlong))]

end Baseline.FileTree
