import Baseline.Proofs.FileTree.Content
import Baseline.Proofs.FileTree.Way

/-!
# A tree ahead of another

One tree is ahead of another (`AheadBy`) when work has been done in it that has not
been done in the other: files have been written in some places, and directories have
been made.  An operation on paths that this work has nothing to do with says the same in
both trees, and leaves one as far ahead of the other as it was:

* `readFile_of_aheadBy`, `isFile_of_aheadBy`: reading a path;
* `ensureDirectory_of_aheadBy`: making directories, which may be made in one tree and
  there already in the other;
* `writeFile_of_aheadBy`, `copyFile_of_aheadBy`: writing below a directory that is there
  in both trees.
-/

namespace Baseline.FileTree

open Path

/-- The second tree is ahead of the first: files may have been written at the locations `written`,
and directories made at the locations `made` where nothing was.  Both have come from `t₀`. -/
structure AheadBy (t₀ : FileTree) (written made : Location → Prop) (t t' : FileTree) : Prop where
  start : t.start = t₀.start
  start' : t'.start = t₀.start
  /-- Directories stay. -/
  kept : ∀ l, t₀.node? l = some .directory → t.node? l = some .directory
  node : ∀ l, t'.node? l = t.node? l ∨
    (written l ∧ t.node? l ≠ some .directory ∧ t'.node? l ≠ some .directory) ∨
    (made l ∧ t.node? l = none ∧ t'.node? l = some .directory)

namespace AheadBy

variable {t₀ t t' : FileTree} {written made : Location → Prop}

theorem mono (h : t₀.AheadBy written made t t') {made' : Location → Prop}
    (hm : ∀ l, made l → t.node? l = none → made' l) : t₀.AheadBy written made' t t' :=
  ⟨h.start, h.start', h.kept, fun l => (h.node l).imp_right fun h =>
    h.imp_right fun ⟨hl, hnone, hd⟩ => ⟨hm l hl hnone, hnone, hd⟩⟩

theorem of_not_written (h : t₀.AheadBy written made t t') {l : Location} (hl : ¬ written l) :
    t'.node? l = t.node? l ∨ made l ∧ t.node? l = none ∧ t'.node? l = some .directory :=
  (h.node l).imp_right fun h => h.resolve_left fun h => hl h.1

theorem node?_eq (h : t₀.AheadBy written made t t') {l : Location} (hw : ¬ written l)
    (hm : ¬ made l) : t'.node? l = t.node? l :=
  (h.of_not_written hw).resolve_right fun h => hm h.1

/-- What is there outside the files is the same in both trees. -/
theorem node?_eq_of_ne_none (h : t₀.AheadBy written made t t') {l : Location} (hw : ¬ written l)
    (hl : t.node? l ≠ none) : t'.node? l = t.node? l :=
  (h.of_not_written hw).resolve_right fun h => hl h.2.1

theorem directory (h : t₀.AheadBy written made t t') {l : Location}
    (hl : t.node? l = some .directory) : t'.node? l = some .directory := by
  rcases h.node l with he | ⟨-, hn, -⟩ | ⟨-, -, hd⟩
  · rw [he, hl]
  · exact absurd hl hn
  · exact hd

theorem content?_eq (h : t₀.AheadBy written made t t') {l : Location} (hw : ¬ written l) :
    t'.content? l = t.content? l := by
  rcases h.of_not_written hw with he | ⟨-, hnone, hd⟩
  · rw [content?, content?, he]
  · rw [content?, content?, hnone, hd]

theorem origin (h : t₀.AheadBy written made t t') (p : Path) : t.origin p = t₀.origin p := by
  rw [FileTree.origin, FileTree.origin, h.start]

theorem origin' (h : t₀.AheadBy written made t t') (p : Path) : t'.origin p = t₀.origin p := by
  rw [FileTree.origin, FileTree.origin, h.start']

/-- Once a directory is there, nothing on the way to it was made in one tree alone. -/
theorem settle (h : t₀.AheadBy written made t t') {way : Location}
    (hd : t.node? way = some .directory) :
    t₀.AheadBy written (fun l => made l ∧ ¬ l <:+ way) t t' :=
  h.mono fun l hl hnone => ⟨hl, fun hway => by simp [directory_of_suffix hd hway] at hnone⟩

end AheadBy

variable {t₀ t t' : FileTree} {written made : Location → Prop}

/-! ### Walks -/

/-- A path that has nothing to do with the work: it leads to nothing that was made, past no file
that was written, and past what was made only by names that a directory can hold. -/
structure Untouched (t₀ : FileTree) (written made : Location → Prop) (p : Path) : Prop where
  noParent : p.NoParent
  past : ∀ l, l <:+ t₀.place p → ¬ written l
  apart : ¬ made (t₀.place p)
  short : ∀ l, l <:+ t₀.place p → made l → ∀ n, .down n ∈ stepsOf p → n.length ≤ longestName

theorem Untouched.mono {p : Path} (h : t₀.Untouched written made p) {made' : Location → Prop}
    (hm : ∀ l, made' l → made l) : t₀.Untouched written made' p :=
  ⟨h.noParent, h.past, fun hp => h.apart (hm _ hp), fun l hl hmade => h.short l hl (hm l hmade)⟩

/-- A name that no directory can hold is among the steps. -/
def Overlong (steps : List Step) : Prop := ∃ n, .down n ∈ steps ∧ longestName < n.length

theorem Overlong.cons {steps : List Step} (h : Overlong steps) (s : Step) :
    Overlong (s :: steps) := by
  obtain ⟨n, hn, hlong⟩ := h
  exact ⟨n, List.mem_cons_of_mem s hn, hlong⟩

/-- A walk on below what is there in the second tree alone finds nothing, unless it comes to a name
that is too long before. -/
theorem walk_of_missing (h : t₀.AheadBy written made t t') {steps : List Step} {loc : Location}
    (hup : NoUp steps) (hw : ∀ l, l <:+ steps.foldl Step.after loc → ¬ written l)
    (hm : ¬ made (steps.foldl Step.after loc))
    (hnone : t.node? loc = none) (hloc : made loc) (hd : t'.node? loc = some .directory) :
    t'.walk loc steps = .error .notFound ∨
      t'.walk loc steps = .error .nameTooLong ∧ Overlong steps := by
  induction steps generalizing loc with
  | nil => exact absurd hloc hm
  | cons s steps ih =>
    have hrest : NoUp steps := fun s' hs => hup s' (List.mem_cons_of_mem s hs)
    cases s with
    | up => exact absurd rfl (hup .up (by simp))
    | stay =>
      rw [walk, if_pos hd]
      rcases ih hrest hw hm hnone hloc hd with he | ⟨he, hlong⟩
      · exact Or.inl he
      · exact Or.inr ⟨he, hlong.cons .stay⟩
    | down n =>
      have hn : t.node? (n :: loc) = none := node?_of_not_directory (by simp [hnone]) n
      rw [walk, if_pos hd]
      split
      · rename_i hlong
        exact Or.inr ⟨rfl, n, by simp, hlong⟩
      · rcases h.of_not_written (hw (n :: loc) (suffix_foldl_after hrest _)) with
          he | ⟨hmade, -, hdir⟩
        · rw [he, hn]
          exact Or.inl rfl
        · rw [hdir]
          rcases ih hrest hw hm hn hmade hdir with he | ⟨he, hlong⟩
          · exact Or.inl he
          · exact Or.inr ⟨he, hlong.cons (.down n)⟩

/-- **A walk past the work** goes the same way in both trees, unless it missed something that was
made and has a name to come that is too long. -/
theorem walk_eq_or_of_aheadBy (h : t₀.AheadBy written made t t') {steps : List Step}
    {loc : Location} (hup : NoUp steps) (hw : ∀ l, l <:+ steps.foldl Step.after loc → ¬ written l)
    (hm : ¬ made (steps.foldl Step.after loc)) (hloc : t.node? loc ≠ none) :
    t'.walk loc steps = t.walk loc steps ∨
      t.walk loc steps = .error .notFound ∧ t'.walk loc steps = .error .nameTooLong ∧
        (∃ l, l <:+ steps.foldl Step.after loc ∧ made l) ∧ Overlong steps := by
  induction steps generalizing loc with
  | nil => exact Or.inl rfl
  | cons s steps ih =>
    have hrest : NoUp steps := fun s' hs => hup s' (List.mem_cons_of_mem s hs)
    have hnode : t'.node? loc = t.node? loc :=
      h.node?_eq_of_ne_none (hw loc (suffix_foldl_after hup loc)) hloc
    cases s with
    | up => exact absurd rfl (hup .up (by simp))
    | stay =>
      rw [walk, walk, hnode]
      split
      · rcases ih hrest hw hm hloc with he | ⟨he, he', hmade, hlong⟩
        · exact Or.inl he
        · exact Or.inr ⟨he, he', hmade, hlong.cons .stay⟩
      · exact Or.inl rfl
    | down n =>
      have hsuffix := suffix_foldl_after hrest (n :: loc)
      rw [walk, walk, hnode]
      split
      · split
        · exact Or.inl rfl
        · rcases h.of_not_written (hw (n :: loc) hsuffix) with he | ⟨hmade, hnone, hdir⟩
          · rw [he]
            split
            · exact Or.inl rfl
            · rename_i hsome
              have hthere : t.node? (n :: loc) ≠ none := by simpa using hsome
              rcases ih hrest hw hm hthere with he | ⟨he, he', hmade, hlong⟩
              · exact Or.inl he
              · exact Or.inr ⟨he, he', hmade, hlong.cons (.down n)⟩
          · -- a directory in one tree alone: the other walk finds nothing here, this one further on
            rw [hdir, hnone]
            rcases walk_of_missing h hrest hw hm hnone hmade hdir with he | ⟨he, hlong⟩
            · exact Or.inl he
            · exact Or.inr ⟨rfl, he, ⟨_, hsuffix, hmade⟩, hlong.cons (.down n)⟩
      · exact Or.inl rfl

/-- A walk past the work that has names for directories only goes the same way in both trees. -/
theorem walk_of_aheadBy (h : t₀.AheadBy written made t t') {steps : List Step} {loc : Location}
    (hup : NoUp steps) (hw : ∀ l, l <:+ steps.foldl Step.after loc → ¬ written l)
    (hm : ¬ made (steps.foldl Step.after loc))
    (hshort : ∀ l, l <:+ steps.foldl Step.after loc → made l →
      ∀ n, .down n ∈ steps → n.length ≤ longestName)
    (hloc : t.node? loc ≠ none) : t'.walk loc steps = t.walk loc steps := by
  refine (walk_eq_or_of_aheadBy h hup hw hm hloc).resolve_right ?_
  rintro ⟨-, -, ⟨l, hl, hmade⟩, n, hn, hlong⟩
  exact Nat.not_le_of_lt hlong (hshort l hl hmade n hn)

/-! ### Reading -/

/-- **A path past the work** leads to the same place in both trees, unless it missed something that
was made and a name in it is too long. -/
theorem locate_eq_or_of_aheadBy (h : t₀.AheadBy written made t t') {p : Path} (hp : p.NoParent)
    (hw : ∀ l, l <:+ t₀.place p → ¬ written l) (hm : ¬ made (t₀.place p)) :
    t'.locate p = t.locate p ∨ t.locate p = .error .notFound ∧ t'.locate p = .error .nameTooLong ∧
      (∃ l, l <:+ t₀.place p ∧ made l) ∧ Overlong (stepsOf p) := by
  have horigin : t.node? (t₀.origin p) ≠ none := by
    rw [← h.origin, t.origin_directory]
    simp
  unfold locate
  rw [h.origin, h.origin']
  cases refuse? p with
  | some e => exact Or.inl rfl
  | none =>
    rcases walk_eq_or_of_aheadBy h (noUp_stepsOf hp) hw hm horigin with
      hwalk | ⟨hmissed, hrefused, hmade, hlong⟩
    · rw [hwalk]
      cases hl : t.walk (t₀.origin p) (stepsOf p) with
      | error e => exact Or.inl rfl
      | ok l =>
        obtain rfl : l = t₀.place p := eq_foldl_of_walk hl
        simp only [h.node?_eq (hw _ List.suffix_rfl) hm, true_or]
    · rw [hmissed, hrefused]
      exact Or.inr ⟨rfl, rfl, hmade, hlong⟩

theorem Untouched.not_overlong {p : Path} (h : t₀.Untouched written made p) {l : Location}
    (hl : l <:+ t₀.place p) (hm : made l) : ¬ Overlong (stepsOf p) := by
  rintro ⟨n, hn, hlong⟩
  exact Nat.not_le_of_lt hlong (h.short l hl hm n hn)

theorem locate_of_aheadBy (h : t₀.AheadBy written made t t') {p : Path}
    (hp : t₀.Untouched written made p) : t'.locate p = t.locate p := by
  refine (locate_eq_or_of_aheadBy h hp.noParent hp.past hp.apart).resolve_right ?_
  rintro ⟨-, -, ⟨l, hl, hmade⟩, hlong⟩
  exact hp.not_overlong hl hmade hlong

theorem node?_of_locate (h : t₀.AheadBy written made t t') {p : Path}
    (hp : t₀.Untouched written made p) {l : Location} (hl : t.locate p = .ok l) :
    t'.node? l = t.node? l := by
  obtain rfl : t₀.place p = l := (place_congr h.start p).symm.trans (place_of_locate hl)
  exact h.node?_eq (hp.past _ List.suffix_rfl) hp.apart

/-- **What is read past the work** is the same in both trees, unless the path missed something that
was made and a name in it is too long. -/
theorem readFile_eq_or_of_aheadBy (h : t₀.AheadBy written made t t') {p : Path} (hp : p.NoParent)
    (hw : ∀ l, l <:+ t₀.place p → ¬ written l) (hm : ¬ made (t₀.place p)) :
    t'.readFile p = t.readFile p ∨
      t.readFile p = .error .notFound ∧ t'.readFile p = .error .nameTooLong ∧
        (∃ l, l <:+ t₀.place p ∧ made l) ∧ Overlong (stepsOf p) := by
  unfold readFile
  rcases locate_eq_or_of_aheadBy h hp hw hm with hsame | ⟨hmissed, hrefused, hrest⟩
  · rw [hsame]
    cases hl : t.locate p with
    | error e => exact Or.inl rfl
    | ok l =>
      obtain rfl : t₀.place p = l := (place_congr h.start p).symm.trans (place_of_locate hl)
      simp only [h.node?_eq (hw _ List.suffix_rfl) hm, true_or]
  · rw [hmissed, hrefused]
    exact Or.inr ⟨rfl, rfl, hrest⟩

/-- **What the work has nothing to do with reads the same.** -/
theorem readFile_of_aheadBy (h : t₀.AheadBy written made t t') {p : Path}
    (hp : t₀.Untouched written made p) : t'.readFile p = t.readFile p := by
  refine (readFile_eq_or_of_aheadBy h hp.noParent hp.past hp.apart).resolve_right ?_
  rintro ⟨-, -, ⟨l, hl, hmade⟩, hlong⟩
  exact hp.not_overlong hl hmade hlong

theorem isFile_of_aheadBy (h : t₀.AheadBy written made t t') {p : Path}
    (hp : t₀.Untouched written made p) : t'.isFile p = t.isFile p := by
  rw [Bool.eq_iff_iff, isFile_iff, isFile_iff, readFile_of_aheadBy h hp]

/-! ### Making directories -/

theorem directory_addDirectory {above : Location} {name : Name}
    (hd : t.node? above = some .directory) (hn : t.node? (name :: above) = none) {l : Location}
    (hl : t.node? l = some .directory) : (t.addDirectory above name).node? l = some .directory := by
  rw [node?_addDirectory hd hn]
  split
  · rfl
  · exact hl

/-- A directory made in both trees. -/
theorem AheadBy.addDirectory (h : t₀.AheadBy written made t t') {above : Location} {name : Name}
    (hd : t.node? above = some .directory) (hn : t.node? (name :: above) = none)
    (hn' : t'.node? (name :: above) = none) :
    t₀.AheadBy written made (t.addDirectory above name) (t'.addDirectory above name) := by
  refine ⟨by simp [h.start], by simp [h.start'],
    fun l hl => directory_addDirectory hd hn (h.kept l hl), fun l => ?_⟩
  rw [node?_addDirectory hd hn, node?_addDirectory (h.directory hd) hn']
  by_cases hl : l = name :: above
  · exact Or.inl (by rw [if_pos hl, if_pos hl])
  · rw [if_neg hl, if_neg hl]
    exact h.node l

/-- A directory made in the first tree that is there in the second. -/
theorem AheadBy.catchUp (h : t₀.AheadBy written made t t') {above : Location} {name : Name}
    (hd : t.node? above = some .directory) (hn : t.node? (name :: above) = none)
    (hd' : t'.node? (name :: above) = some .directory) :
    t₀.AheadBy written made (t.addDirectory above name) t' := by
  refine ⟨by simp [h.start], h.start',
    fun l hl => directory_addDirectory hd hn (h.kept l hl), fun l => ?_⟩
  rw [node?_addDirectory hd hn]
  by_cases hl : l = name :: above
  · exact Or.inl (by rw [if_pos hl, hl, hd'])
  · rw [if_neg hl]
    exact h.node l

/-- **A way is made in both trees**, as far as it is not there. -/
theorem makeWay_of_aheadBy (h : t₀.AheadBy written made t t') {ns : List Name} {loc : Location}
    (hd : t.node? loc = some .directory) (hw : ∀ l, l <:+ ns.reverse ++ loc → ¬ written l) :
    (t'.makeWay loc ns).1 = (t.makeWay loc ns).1 ∧
      t₀.AheadBy written made (t.makeWay loc ns).2 (t'.makeWay loc ns).2 := by
  induction ns generalizing t t' loc with
  | nil => exact ⟨rfl, h⟩
  | cons n ns ih =>
    have hns : (n :: ns).reverse ++ loc = ns.reverse ++ (n :: loc) := by simp
    rw [hns] at hw
    rw [makeWay, makeWay]
    by_cases hlong : longestName < n.length
    · rw [if_pos hlong, if_pos hlong]
      exact ⟨rfl, h⟩
    · rw [if_neg hlong, if_neg hlong]
      rcases h.of_not_written (hw (n :: loc) (List.suffix_append _ _)) with he | ⟨-, hnone, hdir⟩
      · rw [he]
        cases hn : t.node? (n :: loc) with
        | none =>
          exact ih (h.addDirectory hd hn (he.trans hn))
            ((node?_addDirectory hd hn _).trans (if_pos rfl)) hw
        | some node =>
          cases node with
          | directory => exact ih h hn hw
          | file data x => exact ⟨rfl, h⟩
      · -- here the first tree catches up
        rw [hnone, hdir]
        exact ih (h.catchUp hd hnone hdir) ((node?_addDirectory hd hnone _).trans (if_pos rfl)) hw

theorem fst_atFile (isFile : Bool) (r : Except Fault Unit × FileTree) :
    (atFile isFile r).1 =
      match r.1 with
      | .error e => .error (if isFile ∧ e = .notDirectory then .exists_ else e)
      | .ok () => .ok () := by
  obtain ⟨_ | ⟨⟨⟩⟩, t⟩ := r <;> rfl

@[simp] theorem snd_atFile (isFile : Bool) (r : Except Fault Unit × FileTree) :
    (atFile isFile r).2 = r.2 := by
  obtain ⟨_ | ⟨⟨⟩⟩, t⟩ := r <;> rfl

/-- **A directory is made in both trees.** -/
theorem ensureDirectory_of_aheadBy (h : t₀.AheadBy written made t t') {p : Path} (hp : p.NoParent)
    (hw : ∀ l, l <:+ t₀.place p → ¬ written l)
    (hlast : (stepsOf p).getLast? ≠ some .stay ∨ t₀.node? (t₀.place p) = some .directory) :
    (t'.ensureDirectory p).1 = (t.ensureDirectory p).1 ∧
      t₀.AheadBy written made (t.ensureDirectory p).2 (t'.ensureDirectory p).2 := by
  cases hrefuse : refuse? p with
  | some e =>
    obtain ⟨outcome, hsame⟩ := ensureDirectory_of_refused hrefuse
    rw [hsame, hsame]
    exact ⟨rfl, h⟩
  | none =>
    have hplace : t.place p = t₀.place p := place_congr h.start p
    have hplace' : t'.place p = t₀.place p := place_congr h.start' p
    -- both are made as ways from above, which start from one directory
    have hlast' := hlast.imp_right (h.kept _)
    have hway := ensureDirectory_eq (t := t) hrefuse hp (by rwa [hplace])
    have hway' := ensureDirectory_eq (t := t') hrefuse hp
      (by rw [hplace']; exact hlast'.imp_right h.directory)
    rw [hway, hway', hplace, hplace', h.content?_eq (hw _ List.suffix_rfl), h.origin, h.origin',
      fst_atFile, fst_atFile, snd_atFile, snd_atFile]
    have hpast : ∀ l, l <:+ (downs (stepsOf p)).reverse ++ t₀.origin p → ¬ written l :=
      place_of_noParent hp t₀ ▸ hw
    have horigin : t.node? (t₀.origin p) = some .directory := h.origin p ▸ t.origin_directory p
    obtain ⟨houtcome, hahead⟩ := makeWay_of_aheadBy h horigin hpast
    exact ⟨by rw [houtcome], hahead⟩

/-- What was made as a directory is one. -/
theorem directory_of_ensureDirectory {p : Path} (h : t.ensureDirectory p = (.ok (), t')) :
    t'.node? (t'.place p) = some .directory := by
  by_cases hnil : p.bytes = []
  · have hplace : t'.place p = t'.start := by
      rw [place, origin, stepsOf, isAbsolute, hnil]
      rfl
    rw [hplace]
    exact t'.start_directory
  · obtain ⟨-, l, hwalk, hd⟩ := isDirectory_iff.mp (isDirectory_of_ensureDirectory hnil h)
    exact place_of_walk hwalk ▸ hd

/-! ### Writing -/

/-- A path on the way to which nothing was written or made in one tree alone. -/
structure Clear (t₀ : FileTree) (written made : Location → Prop) (p : Path) : Prop where
  noParent : p.NoParent
  past : ∀ l, l <:+ t₀.place p → ¬ written l ∧ ¬ made l

theorem Clear.node? {p : Path} (hp : t₀.Clear written made p)
    (h : t₀.AheadBy written made t t') {l : Location} (hl : l <:+ t₀.place p) :
    t'.node? l = t.node? l := h.node?_eq (hp.past l hl).1 (hp.past l hl).2

theorem slot_of_aheadBy (h : t₀.AheadBy written made t t') {p : Path}
    (hp : t₀.Clear written made p) : t'.slot p = t.slot p := by
  unfold slot
  cases refuse? p with
  | some e => rfl
  | none =>
    cases hl : (stepsOf p).getLast? with
    | none => simp only [h.origin, h.origin']
    | some last =>
      obtain ⟨before, hb⟩ := List.getLast?_eq_some_iff.mp hl
      have hup : NoUp (stepsOf p) := noUp_stepsOf hp.noParent
      rw [hb] at hup
      have hplace : before.foldl Step.after (t₀.origin p) <:+ t₀.place p := by
        rw [place, hb, List.foldl_append]
        exact suffix_foldl_after (fun s hs => hup s (List.mem_append_right _ hs)) _
      have hwalk : t'.walk (t₀.origin p) before = t.walk (t₀.origin p) before := by
        refine walk_of_aheadBy h hup.left (fun l hl => (hp.past l (hl.trans hplace)).1)
          (hp.past _ hplace).2 (fun l hl hmade => absurd hmade (hp.past l (hl.trans hplace)).2) ?_
        rw [← h.origin, t.origin_directory]
        simp
      simp only [hb, List.dropLast_concat, h.origin, h.origin', hwalk]
      cases hw : t.walk (t₀.origin p) before with
      | error e => rfl
      | ok l =>
        obtain rfl := eq_foldl_of_walk hw
        simp only [hp.node? h hplace]

theorem openForWriting_of_aheadBy (h : t₀.AheadBy written made t t') {p : Path}
    (hp : t₀.Clear written made p) : t'.openForWriting p = t.openForWriting p := by
  unfold openForWriting
  rw [slot_of_aheadBy h hp]
  cases hs : t.slot p with
  | error e => rfl
  | ok slot =>
    cases slot with
    | taken l => rfl
    | entry above name =>
      have hplace : t₀.place p = name :: above :=
        (place_congr h.start p).symm.trans (place_of_slot hs)
      simp only [hp.node? h (l := name :: above) (hplace ▸ List.suffix_rfl)]

/-- A file that is put in both trees. -/
theorem AheadBy.setFile (h : t₀.AheadBy written made t t') {p : Path} {above : Location}
    {name : Name} (ho : t.openForWriting p = .ok (above, name))
    (ho' : t'.openForWriting p = .ok (above, name)) (data : Bytes) (x : Bool) :
    t₀.AheadBy written made (t.setFile above name data x) (t'.setFile above name data x) := by
  obtain ⟨hslot, -, -, hn⟩ := openForWriting_eq_ok.mp ho
  obtain ⟨hslot', -, -, hn'⟩ := openForWriting_eq_ok.mp ho'
  obtain ⟨-, before, -, -, hd⟩ := slot_eq_entry.mp hslot
  obtain ⟨-, before', -, -, hd'⟩ := slot_eq_entry.mp hslot'
  refine ⟨by simp [h.start], by simp [h.start'],
    fun l hl => (changesOnly_setFile ho data x).directory (h.kept l hl), fun l => ?_⟩
  rw [node?_setFile hd hn, node?_setFile hd' hn']
  by_cases hl : l = name :: above
  · exact Or.inl (by rw [if_pos hl, if_pos hl])
  · rw [if_neg hl, if_neg hl]
    exact h.node l

/-- The same fault in both trees, or one tree ahead of the other again. -/
inductive Alike (t₀ : FileTree) (written made : Location → Prop) :
    Except Fault FileTree → Except Fault FileTree → Prop
  | error (e : Fault) : Alike t₀ written made (.error e) (.error e)
  | ok {s s' : FileTree} (h : t₀.AheadBy written made s s') : Alike t₀ written made (.ok s) (.ok s')

/-- **A file is written in both trees.** -/
theorem writeFile_of_aheadBy (h : t₀.AheadBy written made t t') {p : Path}
    (hp : t₀.Clear written made p) (data : Bytes) :
    t₀.Alike written made (t.writeFile p data) (t'.writeFile p data) := by
  have hopen := openForWriting_of_aheadBy h hp
  unfold writeFile
  rw [hopen]
  cases ho : t.openForWriting p with
  | error e => exact .error e
  | ok s =>
    obtain ⟨above, name⟩ := s
    have hplace : t₀.place p = name :: above :=
      (place_congr h.start p).symm.trans (place_of_slot (openForWriting_eq_ok.mp ho).1)
    have hexec : t'.isExecutable (name :: above) = t.isExecutable (name :: above) := by
      rw [isExecutable, isExecutable, hp.node? h (hplace ▸ List.suffix_rfl)]
    simp only [hexec]
    exact .ok (h.setFile ho (hopen.trans ho) data _)

/-- **A file is copied in both trees.** -/
theorem copyFile_of_aheadBy (h : t₀.AheadBy written made t t') {source destination : Path}
    (hs : t₀.Untouched written made source) (hd : t₀.Clear written made destination) :
    t₀.Alike written made (t.copyFile source destination) (t'.copyFile source destination) := by
  have hopen := openForWriting_of_aheadBy h hd
  unfold copyFile
  rw [locate_of_aheadBy h hs]
  cases hl : t.locate source with
  | error e => exact .error e
  | ok from_ =>
    simp only [node?_of_locate h hs hl, hopen]
    cases t.node? from_ with
    | none => exact .error _
    | some node =>
      cases node with
      | directory => exact .error _
      | file data x =>
        cases ho : t.openForWriting destination with
        | error e => exact .error e
        | ok s => exact .ok (h.setFile ho (hopen.trans ho) _ x)

end Baseline.FileTree
