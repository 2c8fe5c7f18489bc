import Baseline.Proofs.FileTree.Directory
import Baseline.Proofs.FileTree.Walk

/-!
# The way to a directory

A directory is made from below: its own making is tried first, then that of its
parents.  What comes of it is the same as going down from the top and making every
directory that is missing (`makeWay`), as long as the path has no `..` and does not end
in a `.` that stands for a directory still to be made (`ensureDirectory_eq`).
-/

namespace Baseline.FileTree

open Path

/-! ### Going down -/

/-- Go down by names and make the directories that are missing.  The way ends before a name that is
too long, and before a file. -/
def makeWay (t : FileTree) (loc : Location) : List Name → Except Fault Unit × FileTree
  | [] => (.ok (), t)
  | n :: rest =>
    if longestName < n.length then (.error .nameTooLong, t)
    else
      match t.node? (n :: loc) with
      | some .directory => t.makeWay (n :: loc) rest
      | some (.file _ _) => (.error .notDirectory, t)
      | none => (t.addDirectory loc n).makeWay (n :: loc) rest

theorem makeWay_append (t : FileTree) (loc : Location) (ns ms : List Name) :
    t.makeWay loc (ns ++ ms) =
      match t.makeWay loc ns with
      | (.error e, t') => (.error e, t')
      | (.ok (), t') => t'.makeWay (ns.reverse ++ loc) ms := by
  induction ns generalizing t loc with
  | nil => rfl
  | cons n ns ih =>
    rw [List.cons_append, makeWay, makeWay]
    split
    · rfl
    · have hloc : (n :: ns).reverse ++ loc = ns.reverse ++ (n :: loc) := by simp
      rw [hloc]
      cases t.node? (n :: loc) with
      | none => exact ih _ _
      | some node =>
        cases node with
        | directory => exact ih _ _
        | file data x => rfl

/-- Only new directories are made. -/
theorem node?_makeWay (t : FileTree) {loc : Location} (hd : t.node? loc = some .directory)
    (ns : List Name) (l : Location) :
    (t.makeWay loc ns).2.node? l = t.node? l ∨
      t.node? l = none ∧ (t.makeWay loc ns).2.node? l = some .directory := by
  induction ns generalizing t loc with
  | nil => exact Or.inl rfl
  | cons n ns ih =>
    rw [makeWay]
    split
    · exact Or.inl rfl
    · cases hn : t.node? (n :: loc) with
      | none =>
        have hadd := node?_addDirectory hd hn
        have hself : (t.addDirectory loc n).node? (n :: loc) = some .directory :=
          (hadd _).trans (if_pos rfl)
        rcases ih _ hself with he | ⟨hnone, hdir⟩
        · rw [he, hadd]
          by_cases hl : l = n :: loc
          · exact Or.inr ⟨hl ▸ hn, if_pos hl⟩
          · exact Or.inl (if_neg hl)
        · refine Or.inr ⟨?_, hdir⟩
          rw [hadd] at hnone
          split at hnone
          · simp at hnone
          · exact hnone
      | some node =>
        cases node with
        | directory => exact ih _ hn
        | file data x => exact Or.inl rfl

theorem node?_makeWay_of_ne_none (t : FileTree) {loc : Location}
    (hd : t.node? loc = some .directory) (ns : List Name) {l : Location} (hl : t.node? l ≠ none) :
    (t.makeWay loc ns).2.node? l = t.node? l :=
  (t.node?_makeWay hd ns l).resolve_right fun h => hl h.1

@[simp] theorem start_makeWay (t : FileTree) (loc : Location) (ns : List Name) :
    (t.makeWay loc ns).2.start = t.start := by
  induction ns generalizing t loc with
  | nil => rfl
  | cons n ns ih =>
    rw [makeWay]
    split
    · rfl
    · cases t.node? (n :: loc) with
      | none => rw [ih, start_addDirectory]
      | some node =>
        cases node with
        | directory => exact ih _ _
        | file data x => rfl

/-! ### Ways and walks -/

/-- What a walk says of the way: where it ends there has to be a directory. -/
def wayOf (t : FileTree) : Except Fault Location → Except Fault Unit
  | .error e => .error e
  | .ok l => if t.node? l = some .directory then .ok () else .error .notDirectory

/-- **A way on which nothing is missing** is there, or what stops the walk stops it. -/
theorem makeWay_of_walk {t : FileTree} {steps : List Step} {loc : Location} (hup : NoUp steps)
    (hd : t.node? loc = some .directory) (h : t.walk loc steps ≠ .error .notFound) :
    t.makeWay loc (downs steps) = (t.wayOf (t.walk loc steps), t) := by
  induction steps generalizing loc with
  | nil => simp [walk, wayOf, downs, makeWay, hd]
  | cons s steps ih =>
    have hrest : NoUp steps := fun s' hs => hup s' (List.mem_cons_of_mem s hs)
    cases s with
    | up => exact absurd rfl (hup .up (by simp))
    | stay =>
      rw [walk, if_pos hd] at h ⊢
      exact ih hrest hd h
    | down n =>
      rw [walk, if_pos hd] at h ⊢
      rw [show downs (.down n :: steps) = n :: downs steps from rfl, makeWay]
      by_cases hlong : longestName < n.length
      · rw [if_pos hlong, if_pos hlong]
        rfl
      · rw [if_neg hlong] at h ⊢
        rw [if_neg hlong]
        cases hn : t.node? (n :: loc) with
        | none => simp [hn] at h
        | some node =>
          rw [hn] at h
          cases node with
          | directory => exact ih hrest hn h
          | file data x =>
            -- a file ends the walk, or stops it
            cases steps with
            | nil => simp [walk, wayOf, hn]
            | cons s' steps => cases s' <;> simp [walk, wayOf, hn]

theorem directory_of_makeWay {t t' : FileTree} {loc l : Location} {ns : List Name}
    {outcome : Except Fault Unit} (hd : t.node? loc = some .directory)
    (hl : t.node? l = some .directory) (h : t.makeWay loc ns = (outcome, t')) :
    t'.node? l = some .directory := by
  have hkept := t.node?_makeWay_of_ne_none hd ns (l := l) (by simp [hl])
  rwa [h, hl] at hkept

/-- **A way that was made** is walked. -/
theorem walk_of_makeWay {t t' : FileTree} {steps : List Step} {loc : Location} (hup : NoUp steps)
    (hd : t.node? loc = some .directory) (h : t.makeWay loc (downs steps) = (.ok (), t')) :
    t'.walk loc steps = .ok (steps.foldl Step.after loc) ∧
      t'.node? (steps.foldl Step.after loc) = some .directory := by
  induction steps generalizing t loc with
  | nil =>
    obtain rfl : t = t' := (Prod.mk.inj h).2
    exact ⟨rfl, hd⟩
  | cons s steps ih =>
    have hrest : NoUp steps := fun s' hs => hup s' (List.mem_cons_of_mem s hs)
    have hd' : t'.node? loc = some .directory := directory_of_makeWay hd hd h
    cases s with
    | up => exact absurd rfl (hup .up (by simp))
    | stay =>
      rw [List.foldl_cons, walk, if_pos hd']
      exact ih hrest hd h
    | down n =>
      rw [List.foldl_cons, walk, if_pos hd']
      rw [show downs (.down n :: steps) = n :: downs steps from rfl, makeWay] at h
      split at h
      · simp at h
      · rename_i hlong
        rw [if_neg hlong]
        -- the name is there or is made, and the way goes on below it
        obtain ⟨s, hs, hway⟩ : ∃ s : FileTree, s.node? (n :: loc) = some .directory ∧
            s.makeWay (n :: loc) (downs steps) = (.ok (), t') := by
          cases hn : t.node? (n :: loc) with
          | none =>
            exact ⟨_, (node?_addDirectory hd hn _).trans (if_pos rfl), by simpa [hn] using h⟩
          | some node =>
            cases node with
            | directory => exact ⟨t, hn, by simpa [hn] using h⟩
            | file data x => simp [hn] at h
        rw [if_neg (by simp [directory_of_makeWay hs hs hway])]
        exact ih hrest hs hway

/-! ### Making a directory -/

/-- A directory is made at a path, or is there. -/
def reach (t : FileTree) (p : Path) : Except Fault Unit × FileTree :=
  match t.makeDirectory p with
  | .ok made => (.ok (), made)
  | .error e => if t.isDirectory p then (.ok (), t) else (.error e, t)

/-- A way that ends at a file ends at what is there already. -/
def atFile (isFile : Bool) : Except Fault Unit × FileTree → Except Fault Unit × FileTree
  | (.error e, t) => (.error (if isFile ∧ e = .notDirectory then .exists_ else e), t)
  | (.ok (), t) => (.ok (), t)

@[simp] theorem atFile_false (r : Except Fault Unit × FileTree) : atFile false r = r := by
  obtain ⟨_ | ⟨⟨⟩⟩, t⟩ := r <;> simp [atFile]

section

variable {t : FileTree} {p : Path} {before : List Step} {n : Name}

theorem makeDirectory_of_steps (hrefuse : refuse? p = none)
    (hsteps : stepsOf p = before ++ [.down n]) :
    t.makeDirectory p =
      match t.walk (t.origin p) before with
      | .error e => .error e
      | .ok l =>
        if t.node? l = some .directory then
          if longestName < n.length then .error .nameTooLong
          else if (t.node? (n :: l)).isSome then .error .exists_
          else .ok (t.addDirectory l n)
        else .error .notDirectory := by
  unfold makeDirectory slot
  rw [hrefuse, hsteps]
  simp only [List.getLast?_concat, List.dropLast_concat]
  cases t.walk (t.origin p) before with
  | error e => rfl
  | ok l =>
    by_cases hd : t.node? l = some .directory
    · simp only [if_pos hd]
    · simp only [if_neg hd]

theorem isDirectory_of_steps (hrefuse : refuse? p = none)
    (hsteps : stepsOf p = before ++ [.down n]) :
    t.isDirectory p = true ↔ ∃ l, t.walk (t.origin p) before = .ok l ∧
      n.length ≤ longestName ∧ t.node? (n :: l) = some .directory := by
  rw [isDirectory_iff, hsteps]
  constructor
  · rintro ⟨-, l, hwalk, hd⟩
    obtain ⟨mid, hmid, hlast⟩ := walk_append_eq_ok.mp hwalk
    obtain ⟨-, hallow, hend⟩ := walk_cons_eq_ok.mp hlast
    obtain rfl : n :: mid = l := Except.ok.inj hend
    exact ⟨mid, hmid, hallow.1, hd⟩
  · rintro ⟨l, hwalk, hlong, hd⟩
    refine ⟨hrefuse, n :: l, walk_append_eq_ok.mpr ⟨l, hwalk, walk_cons_eq_ok.mpr ?_⟩, hd⟩
    exact ⟨t.closed n l _ hd, ⟨hlong, by simp [hd]⟩, rfl⟩

/-- **The last name of a way**, when all before it is there. -/
theorem reach_eq (hrefuse : refuse? p = none) (hsteps : stepsOf p = before ++ [.down n])
    {l : Location} (hwalk : t.walk (t.origin p) before = .ok l)
    (hd : t.node? l = some .directory) :
    t.reach p = atFile (t.content? (n :: l)).isSome (t.makeWay l [n]) := by
  have hmake := makeDirectory_of_steps (t := t) hrefuse hsteps
  have hisdir := isDirectory_of_steps (t := t) hrefuse hsteps
  simp only [hwalk, hd, if_true] at hmake
  simp only [hwalk, Except.ok.injEq, exists_eq_left'] at hisdir
  unfold reach makeWay
  rw [hmake]
  by_cases hlong : longestName < n.length
  · have hnot : t.isDirectory p = false := by
      rw [← Bool.not_eq_true, hisdir]
      exact fun h => absurd h.1 (Nat.not_le_of_lt hlong)
    simp [hlong, hnot, atFile, Fault.nameTooLong, Fault.notDirectory]
  · simp only [if_neg hlong, Nat.le_of_not_lt hlong, true_and] at hisdir ⊢
    cases hn : t.node? (n :: l) with
    | none => simp [makeWay, atFile]
    | some node =>
      cases node with
      | directory => simp [hisdir.mpr hn, makeWay, atFile]
      | file data x =>
        have hnot : t.isDirectory p = false := by
          rw [← Bool.not_eq_true, hisdir, hn]
          simp
        simp [hnot, content?, hn, atFile]

end

theorem refuse?_of_beginning {p q : Path} (hq : q.bytes <+: p.bytes) (hne : q.bytes ≠ [])
    (h : refuse? p = none) : refuse? q = none := by
  obtain ⟨hzero, -, hlength⟩ := refuse?_eq_none.mp h
  exact refuse?_eq_none.mpr ⟨fun hz => hzero (hq.subset hz), hne,
    Nat.lt_of_le_of_lt hq.length_le hlength⟩

theorem bytes_ne_nil_of_steps {p : Path} {before : List Step} {s : Step}
    (h : stepsOf p = before ++ [s]) : p.bytes ≠ [] := by
  intro hnil
  have hsteps : stepsOf p = [] := by
    rw [stepsOf, hnil]
    rfl
  rw [hsteps] at h
  simp at h

theorem makeAncestors_eq_reach {t : FileTree} {q : Path} (hq : q.bytes ≠ [])
    (h : ∀ e, t.makeDirectory q = .error e → e.kind ≠ .notFound) (above : List Path) :
    t.makeAncestors (q :: above) = t.reach q := by
  rw [makeAncestors, if_neg hq, reach]
  cases hmake : t.makeDirectory q with
  | ok made => rfl
  | error e => simp only [if_neg (h e hmake)]

theorem makeAncestors_of_notFound {t : FileTree} {q : Path} (hq : q.bytes ≠ [])
    (h : t.makeDirectory q = .error .notFound) (above : List Path) :
    t.makeAncestors (q :: above) =
      match t.makeAncestors above with
      | (.error e, t') => (.error e, t')
      | (.ok (), t') => t'.reach q := by
  rw [makeAncestors, if_neg hq, h]
  simp only [show Fault.notFound.kind = .notFound from rfl, if_true]
  cases t.makeAncestors above with
  | mk outcome t' =>
    cases outcome with
    | error e => rfl
    | ok =>
      unfold reach
      cases t'.makeDirectory q <;> rfl

theorem makeAncestors_of_isDirectory {t : FileTree} {q : Path} (h : t.isDirectory q = true)
    (above : List Path) : t.makeAncestors (q :: above) = (.ok (), t) := by
  have hmake := makeDirectory_of_isDirectory h
  have hq : q.bytes ≠ [] := fun hnil => by simp [isDirectory_iff, refuse?, hnil] at h
  rw [makeAncestors_eq_reach hq, reach, hmake]
  · simp [h]
  · intro e he
    rw [hmake] at he
    cases he
    decide

/-! ### One path more -/

section

variable {t : FileTree} {q : Path} {before : List Step} {n : Name}
  (hrefuse : refuse? q = none) (hsteps : stepsOf q = before ++ [.down n]) (hup : NoUp before)

include hrefuse hsteps hup

/-- The way to a path, when all before its last name is walked. -/
theorem makeAncestors_of_walked {l : Location} (hwalk : t.walk (t.origin q) before = .ok l)
    (above : List Path) : t.makeAncestors (q :: above) =
      atFile (t.content? (n :: l)).isSome (t.makeWay (t.origin q) (downs before ++ [n])) := by
  have hq := bytes_ne_nil_of_steps hsteps
  have hend : (downs before).reverse ++ t.origin q = l := by
    rw [← foldl_after hup, eq_foldl_of_walk hwalk]
  have hmake := makeDirectory_of_steps (t := t) hrefuse hsteps
  simp only [hwalk] at hmake
  rw [makeWay_append, makeWay_of_walk hup (t.origin_directory q) (by simp [hwalk]), hwalk, hend]
  by_cases hl : t.node? l = some .directory
  · rw [makeAncestors_eq_reach hq, reach_eq hrefuse hsteps hwalk hl]
    · simp only [wayOf, if_pos hl]
    · intro e he
      rw [hmake, if_pos hl] at he
      split at he
      · cases he
        decide
      · split at he
        · cases he
          decide
        · simp at he
  · have hnone := node?_of_not_directory hl n
    have hnot : t.isDirectory q = false := by
      rw [← Bool.not_eq_true, isDirectory_of_steps hrefuse hsteps]
      simp [hwalk, hnone]
    rw [if_neg hl] at hmake
    rw [makeAncestors_eq_reach hq, reach, hmake, content?_of_none hnone]
    · simp [hnot, wayOf, hl]
    · intro e he
      rw [hmake] at he
      cases he
      decide

/-- The way to a path, when a file or a name that is too long stops the walk before its last
name. -/
theorem makeAncestors_of_stopped {e : Fault} (hwalk : t.walk (t.origin q) before = .error e)
    (he : e ≠ .notFound) (above : List Path) : t.makeAncestors (q :: above) =
      atFile (t.content? (n :: before.foldl Step.after (t.origin q))).isSome
        (t.makeWay (t.origin q) (downs before ++ [n])) := by
  have hmake := makeDirectory_of_steps (t := t) hrefuse hsteps
  simp only [hwalk] at hmake
  have hnot : t.isDirectory q = false := by
    rw [← Bool.not_eq_true, isDirectory_of_steps hrefuse hsteps]
    simp [hwalk]
  have hway := makeWay_of_walk hup (t.origin_directory q) (by simpa [hwalk] using he)
  rw [makeWay_append, hway, hwalk, makeAncestors_eq_reach (bytes_ne_nil_of_steps hsteps), reach,
    hmake]
  · simp only [hnot, wayOf]
    -- a file at the end would have let the walk pass
    have hfile : e = .notDirectory →
        t.content? (n :: before.foldl Step.after (t.origin q)) = none := by
      rintro rfl
      refine content?_of_none (node?_of_not_directory (fun hl => ?_) n)
      rcases walk_of_directory hup hl with h | h <;>
        simp [hwalk, Fault.nameTooLong, Fault.notDirectory] at h
    by_cases hend : e = .notDirectory
    · simp [hfile hend]
    · simp [atFile, hend]
  · intro e' he'
    rw [hmake] at he'
    cases he'
    rcases walk_eq_error hwalk with rfl | rfl | rfl
    · exact absurd rfl he
    · decide
    · decide

/-- The way to a path, when something is missing before its last name: that is made first. -/
theorem makeAncestors_of_missing (hwalk : t.walk (t.origin q) before = .error .notFound)
    {above : List Path} (habove : t.makeAncestors above =
      atFile (t.content? (before.foldl Step.after (t.origin q))).isSome
        (t.makeWay (t.origin q) (downs before))) :
    t.makeAncestors (q :: above) =
      atFile (t.content? (n :: before.foldl Step.after (t.origin q))).isSome
        (t.makeWay (t.origin q) (downs before ++ [n])) := by
  have hd := t.origin_directory q
  have hmake := makeDirectory_of_steps (t := t) hrefuse hsteps
  simp only [hwalk] at hmake
  have hnone : t.node? (before.foldl Step.after (t.origin q)) = none :=
    Classical.not_not.mp fun hne => walk_ne_notFound hup hne hwalk
  have hnot : t.node? (before.foldl Step.after (t.origin q)) ≠ some .directory := by simp [hnone]
  have hn := node?_of_not_directory hnot n
  rw [makeAncestors_of_notFound (bytes_ne_nil_of_steps hsteps) hmake, habove,
    content?_of_none hnone, content?_of_none hn, makeWay_append, ← foldl_after hup]
  simp only [Option.isSome_none, atFile_false]
  have hstart := t.start_makeWay (t.origin q) (downs before)
  have hnode := t.node?_makeWay hd (downs before) (n :: before.foldl Step.after (t.origin q))
  cases hway : t.makeWay (t.origin q) (downs before) with
  | mk outcome t' =>
    rw [hway] at hstart hnode
    cases outcome with
    | error e => rfl
    | ok =>
      obtain ⟨hwalk', hd'⟩ := walk_of_makeWay hup hd hway
      have horigin : t'.origin q = t.origin q := by rw [origin, origin, hstart]
      have hcontent : t'.content? (n :: before.foldl Step.after (t.origin q)) = none := by
        rcases hnode with h | ⟨-, h⟩ <;> simp [content?, h, hn]
      dsimp only
      rw [reach_eq hrefuse hsteps (horigin ▸ hwalk') hd', hcontent]
      exact atFile_false _

end

/-! ### The way to a path -/

/-- **Paths that climb** are made as the way down to the first of them. -/
theorem makeAncestors_of_climbs {p : Path} (hrefuse : refuse? p = none) {ps : List Path}
    {ns : List Name} (h : Climbs p ps ns) (t : FileTree) :
    t.makeAncestors ps =
      atFile (t.content? (ns.reverse ++ t.origin p)).isSome (t.makeWay (t.origin p) ns) := by
  have hd := t.origin_directory p
  have hcontent : t.content? (t.origin p) = none := by rw [content?, hd]
  induction h with
  | root => simp [makeAncestors, makeWay, hcontent]
  | empty _ => simp [makeAncestors, makeWay, hcontent, Path.empty]
  | @top q above hq habsolute hsteps _ _ =>
    simp only [List.reverse_nil, List.nil_append, hcontent, Option.isSome_none, atFile_false,
      makeWay]
    by_cases hnil : q.bytes = []
    · rw [makeAncestors, if_pos hnil]
    · refine makeAncestors_of_isDirectory (isDirectory_iff.mpr ?_) above
      exact ⟨refuse?_of_beginning hq hnil hrefuse, _, walk_stays (t.origin_directory q) hsteps,
        t.origin_directory q⟩
  | @down q above before n hq habsolute hsteps hup habove ih =>
    have hq' := refuse?_of_beginning hq (bytes_ne_nil_of_steps hsteps) hrefuse
    have horigin : t.origin q = t.origin p := origin_eq habsolute
    rw [List.reverse_append, List.append_assoc, ← foldl_after hup, ← horigin]
    cases hwalk : t.walk (t.origin q) before with
    | ok l =>
      rw [makeAncestors_of_walked hq' hsteps hup hwalk, eq_foldl_of_walk hwalk]
      rfl
    | error e =>
      by_cases he : e = .notFound
      · refine makeAncestors_of_missing hq' hsteps hup (he ▸ hwalk) ?_
        rw [ih, foldl_after hup, horigin]
      · exact makeAncestors_of_stopped hq' hsteps hup hwalk he above

/-- A path that ends in a `.` that stands for a directory: the directory is there, or a name is too
long. -/
theorem ensureDirectory_of_stay {t : FileTree} {p : Path} (hrefuse : refuse? p = none)
    {before : List Step} (hsteps : stepsOf p = before ++ [.stay]) (hup : NoUp before)
    (hd : t.node? (before.foldl Step.after (t.origin p)) = some .directory) :
    t.ensureDirectory p = t.makeWay (t.origin p) (downs before) := by
  obtain ⟨above, hancestors⟩ := ancestors_eq_cons p
  have horigin := t.origin_directory p
  rw [ensureDirectory, hancestors]
  rcases walk_of_directory hup hd with hwalk | hwalk
  · have hstay : t.walk (t.origin p) (stepsOf p) = .ok (before.foldl Step.after (t.origin p)) := by
      rw [hsteps]
      exact walk_append_eq_ok.mpr ⟨_, hwalk, walk_cons_eq_ok.mpr ⟨hd, trivial, rfl⟩⟩
    rw [makeAncestors_of_isDirectory (isDirectory_iff.mpr ⟨hrefuse, _, hstay, hd⟩),
      makeWay_of_walk hup horigin (by simp [hwalk]), hwalk]
    simp only [wayOf, if_pos hd]
  · have hmake : t.makeDirectory p = .error .nameTooLong := by
      unfold makeDirectory slot
      rw [hrefuse, hsteps]
      simp only [List.getLast?_concat, List.dropLast_concat, hwalk]
    have hnot : t.isDirectory p = false := by
      rw [← Bool.not_eq_true, isDirectory_iff, hsteps]
      simp [walk_append_eq_ok, hwalk]
    rw [makeAncestors_eq_reach (bytes_ne_nil_of_steps hsteps), reach, hmake,
      makeWay_of_walk hup horigin (by simp [hwalk, Fault.nameTooLong, Fault.notFound]), hwalk]
    · simp [hnot, wayOf]
    · intro e he
      rw [hmake] at he
      cases he
      decide

/-- **Making a directory is making the way down to it**, for a path without `..` that does not end
in a `.` unless that stands for a directory. -/
theorem ensureDirectory_eq {t : FileTree} {p : Path} (hrefuse : refuse? p = none)
    (hp : p.NoParent)
    (hlast : (stepsOf p).getLast? ≠ some .stay ∨ t.node? (t.place p) = some .directory) :
    t.ensureDirectory p = atFile (t.content? (t.place p)).isSome
      (t.makeWay (t.origin p) (downs (stepsOf p))) := by
  have hup := noUp_stepsOf hp
  by_cases hstay : (stepsOf p).getLast? = some .stay
  · obtain ⟨before, hsteps⟩ := List.getLast?_eq_some_iff.mp hstay
    have hd := hlast.resolve_left (not_not_intro hstay)
    have hplace : t.place p = before.foldl Step.after (t.origin p) := by
      rw [place, hsteps, List.foldl_append]
      rfl
    have hdowns : downs (stepsOf p) = downs before := by simp [hsteps, downs, Step.name?]
    rw [content?, hd, hdowns]
    rw [hplace] at hd
    rw [ensureDirectory_of_stay hrefuse hsteps (hsteps ▸ hup).left hd]
    exact (atFile_false _).symm
  · rw [place_of_noParent hp]
    exact makeAncestors_of_climbs hrefuse
      (climbs_ancestors (refuse?_eq_none.mp hrefuse).2.1 hp hstay) t

/-- A path that no operation takes makes nothing, in every tree alike. -/
theorem ensureDirectory_of_refused {p : Path} {e : Fault} (h : refuse? p = some e) :
    ∃ outcome, ∀ t : FileTree, t.ensureDirectory p = (outcome, t) := by
  obtain ⟨above, hancestors⟩ := ancestors_eq_cons p
  by_cases hnil : p.bytes = []
  · exact ⟨.ok (), fun t => by rw [ensureDirectory, hancestors, makeAncestors, if_pos hnil]⟩
  · refine ⟨.error e, fun t => ?_⟩
    have hmake : t.makeDirectory p = .error e := by
      unfold makeDirectory slot
      rw [h]
    have hnot : t.isDirectory p = false := by
      rw [← Bool.not_eq_true, isDirectory_iff, h]
      simp
    have hkind : e.kind ≠ .notFound := by
      unfold refuse? at h
      split at h
      · cases h
        decide
      · split at h
        · cases h
          decide
        · simp at h
    rw [ensureDirectory, hancestors, makeAncestors_eq_reach hnil, reach, hmake]
    · simp [hnot]
    · intro e' he'
      rw [hmake] at he'
      cases he'
      exact hkind

end Baseline.FileTree
