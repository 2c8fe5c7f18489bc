import Baseline.Proofs.FileTree.Content
import Baseline.Proofs.FileTree.EitherOrder

/-!
# Files beside the work

Work may make a directory where another path leads, or on the way there.  Whether that
path leads to a file does not depend on it: files that are not written are
the same files afterwards (`ChangesOnly.readFile_iff`, `ChangesOnly.isFile_eq`).

What a path that leads to no file is refused with may depend on it.  A path that goes down beside
all that was made, from a directory that was there, sees nothing of the work; when that
directory was not there, the path leads nowhere before the work and nowhere after it, but a walk
that gets further may come to a name that is too long (`readFile_eq_or_of_aside`).
-/

namespace Baseline.FileTree

open Path

variable {writes dirs : List Path} {t t' : FileTree}

/-! ### Walking back -/

/-- What was something before and is a directory now was a directory. -/
theorem ChangesOnly.directory_of_ne_none (h : ChangesOnly writes dirs t t') {l : Location}
    (hl : t.node? l ≠ none) (hd : t'.node? l = some .directory) :
    t.node? l = some .directory := by
  rcases h.node l with he | ⟨-, -, data, x, hf⟩ | ⟨-, hnone, -⟩
  · rw [← he, hd]
  · simp [hf] at hd
  · exact absurd hnone hl

/-- A walk to what was there before was possible before. -/
theorem ChangesOnly.walk_back (h : ChangesOnly writes dirs t t') {steps : List Step}
    {loc l : Location} (hup : NoUp steps) (hl : t.node? l ≠ none)
    (hw : t'.walk loc steps = .ok l) : t.walk loc steps = .ok l := by
  induction steps generalizing loc with
  | nil => exact hw
  | cons s steps ih =>
    have hrest : NoUp steps := fun s' hs => hup s' (List.mem_cons_of_mem s hs)
    have hend : l = (s :: steps).foldl Step.after loc := eq_foldl_of_walk hw
    obtain ⟨hdir, hallow, hwalk⟩ := walk_cons_eq_ok.mp hw
    have hloc : t.node? loc ≠ none :=
      ne_none_of_suffix hl (hend ▸ suffix_foldl_after hup loc)
    refine walk_cons_eq_ok.mpr ⟨h.directory_of_ne_none hloc hdir, ?_, ih hrest hwalk⟩
    cases s with
    | stay | up => trivial
    | down n =>
      exact ⟨hallow.1, ne_none_of_suffix hl (hend ▸ suffix_foldl_after hrest (n :: loc))⟩

/-- **A file that is not written** is the same file before and after. -/
theorem ChangesOnly.readFile_iff (h : ChangesOnly writes dirs t t') {p : Path} (hp : p.NoParent)
    (hw : ∀ q ∈ writes, t.place q ≠ t.place p) {data : Bytes} :
    t'.readFile p = .ok data ↔ t.readFile p = .ok data := by
  refine ⟨fun hr => ?_, fun hr => h.readFile hr hw⟩
  obtain ⟨l, x, hl, hn⟩ := readFile_eq_ok.mp hr
  obtain ⟨hrefuse, hwalk, hslash⟩ := locate_eq_ok.mp hl
  have hplace : t.place p = l := (h.place p).symm.trans (place_of_locate hl)
  have hbefore : t.node? l = some (.file data x) := by
    rcases h.node l with he | ⟨⟨q, hq, he⟩, -⟩ | ⟨-, -, hd⟩
    · rw [← he, hn]
    · exact absurd (he.trans hplace.symm) (hw q hq)
    · simp [hn] at hd
  refine readFile_eq_ok.mpr ⟨l, x, locate_eq_ok.mpr ⟨hrefuse, ?_, fun hend => ?_⟩, hbefore⟩
  · rw [← h.origin]
    exact h.walk_back (noUp_stepsOf hp) (by simp [hbefore]) hwalk
  · simp [hslash hend] at hn

theorem ChangesOnly.isFile_eq (h : ChangesOnly writes dirs t t') {p : Path} (hp : p.NoParent)
    (hw : ∀ q ∈ writes, t.place q ≠ t.place p) : t'.isFile p = t.isFile p := by
  rw [Bool.eq_iff_iff, isFile_iff, isFile_iff]
  exact exists_congr fun _ => h.readFile_iff hp hw

/-! ### Reading beside the work -/

/-- A walk along steps and more steps is two walks. -/
theorem walk_append (t : FileTree) (loc : Location) (before after : List Step) :
    t.walk loc (before ++ after) = (t.walk loc before).bind (t.walk · after) := by
  induction before generalizing loc with
  | nil => rfl
  | cons s before ih =>
    rw [List.cons_append]
    by_cases hd : t.node? loc = some .directory
    · cases s with
      | stay | up => simp only [walk, if_pos hd, ih]
      | down n =>
        simp only [walk, if_pos hd, ih]
        split
        · rfl
        · split <;> rfl
    · simp only [walk, if_neg hd]
      rfl

/-- A path is refused with what a walk along its beginning fails with. -/
theorem readFile_of_walk_error {p : Path} {before after : List Step} {e : Fault}
    (hrefuse : refuse? p = none) (hsteps : stepsOf p = before ++ after)
    (h : t.walk (t.origin p) before = .error e) : t.readFile p = .error e := by
  unfold readFile locate
  rw [hrefuse, hsteps, walk_append, h]
  rfl

theorem readFile_of_refused {p : Path} {e : Fault} (h : refuse? p = some e) :
    t.readFile p = .error e := by
  unfold readFile locate
  rw [h]

/-- A walk that goes on from what is no directory fails. -/
theorem exists_walk_error {before : List Step} {n : Name} {loc : Location}
    (h : t.node? (before.foldl Step.after loc) ≠ some .directory) :
    ∃ e, t.walk loc (before ++ [.down n]) = .error e := by
  cases hw : t.walk loc (before ++ [.down n]) with
  | error e => exact ⟨e, rfl⟩
  | ok l =>
    obtain ⟨mid, hmid, hlast⟩ := walk_append_eq_ok.mp hw
    obtain ⟨hd, -⟩ := walk_cons_eq_ok.mp hlast
    exact absurd (eq_foldl_of_walk hmid ▸ hd) h

/-- A path that goes down by `name` from the directory `dir`, past all files that are written and
past nothing that is made below that directory. -/
structure Aside (t : FileTree) (writes dirs : List Path) (dir : Path) (name : Name) (p : Path) :
    Prop where
  noParent : p.NoParent
  steps : ∃ after, stepsOf p = stepsOf dir ++ [.down name] ++ after
  origin : t.origin p = t.origin dir
  past : ∀ q ∈ writes, ¬ t.place q <:+ t.place p
  apart : ∀ q ∈ dirs, t.place q <:+ t.place p → t.place q <:+ t.place dir

variable {dir p : Path} {name : Name}

theorem foldl_after_down (t : FileTree) (dir : Path) (name : Name) :
    (stepsOf dir ++ [Step.down name]).foldl Step.after (t.origin dir) = name :: t.place dir := by
  rw [List.foldl_append]
  rfl

/-- Where a path goes down beside the work is on its way. -/
theorem Aside.suffix_place (h : t.Aside writes dirs dir name p) :
    name :: t.place dir <:+ t.place p := by
  obtain ⟨after, hsteps⟩ := h.steps
  have hup : NoUp after := fun s hs =>
    noUp_stepsOf h.noParent s (hsteps ▸ List.mem_append_right _ hs)
  have hplace : t.place p = after.foldl Step.after (name :: t.place dir) := by
    rw [place, h.origin, hsteps, List.foldl_append, foldl_after_down]
  exact hplace ▸ suffix_foldl_after hup _

/-- The work does nothing on the way, when the directory was there. -/
theorem Aside.untouched (h : ChangesOnly writes dirs t t') (hp : t.Aside writes dirs dir name p)
    (hd : t.node? (t.place dir) = some .directory) :
    t.Untouched (fun l => ∃ q ∈ writes, t.place q = l) (t.Made t') p := by
  have hmade : ∀ l, l <:+ t.place p → ¬ t.Made t' l := by
    rintro l hl hm
    obtain ⟨q, hq, rfl⟩ := h.place_of_made hm
    simp [Made, directory_of_suffix hd (hp.apart q hq hl)] at hm
  refine ⟨hp.noParent, ?_, hmade _ List.suffix_rfl, fun l hl hm => absurd hm (hmade l hl)⟩
  rintro l hl ⟨q, hq, rfl⟩
  exact hp.past q hq hl

/-- A walk that goes down beside the work. -/
theorem Aside.walk_eq_or (h : ChangesOnly writes dirs t t') (hp : t.Aside writes dirs dir name p) :
    t'.walk (t.origin dir) (stepsOf dir ++ [.down name]) =
        t.walk (t.origin dir) (stepsOf dir ++ [.down name]) ∨
      t.walk (t.origin dir) (stepsOf dir ++ [.down name]) = .error .notFound ∧
        t'.walk (t.origin dir) (stepsOf dir ++ [.down name]) = .error .nameTooLong ∧
        Overlong (stepsOf dir ++ [.down name]) := by
  obtain ⟨after, hsteps⟩ := hp.steps
  have hup : NoUp (stepsOf p) := noUp_stepsOf hp.noParent
  rw [hsteps] at hup
  have horigin : t.node? (t.origin dir) ≠ none := by simp [t.origin_directory]
  have hpast : ∀ l, l <:+ (stepsOf dir ++ [Step.down name]).foldl Step.after (t.origin dir) →
      ¬ ∃ q ∈ writes, t.place q = l := by
    rintro l hl ⟨q, hq, rfl⟩
    rw [foldl_after_down] at hl
    exact hp.past q hq (hl.trans hp.suffix_place)
  have hapart : ¬ t.Made t' ((stepsOf dir ++ [Step.down name]).foldl Step.after (t.origin dir)) := by
    -- what is made stands above
    intro hm
    rw [foldl_after_down] at hm
    obtain ⟨q, hq, hl⟩ := h.place_of_made hm
    have hle := (hl ▸ hp.apart q hq (hl ▸ hp.suffix_place)).length_le
    exact absurd hle (Nat.not_succ_le_self _)
  rcases walk_eq_or_of_aheadBy h.aheadBy hup.left hpast hapart horigin with
    hsame | ⟨hmissed, hrefused, -, hlong⟩
  · exact Or.inl hsame
  · exact Or.inr ⟨hmissed, hrefused, hlong⟩

/-- **Reading beside the work**: a path reads as before, unless the directory from where it goes
down beside the work was not there and a name is too long, on the way there or the next one. -/
theorem readFile_eq_or_of_aside (h : ChangesOnly writes dirs t t')
    (hp : t.Aside writes dirs dir name p) :
    t'.readFile p = t.readFile p ∨
      t.readFile p = .error .notFound ∧ t'.readFile p = .error .nameTooLong ∧
        t.node? (t.place dir) ≠ some .directory ∧ Overlong (stepsOf dir ++ [.down name]) := by
  by_cases hd : t.node? (t.place dir) = some .directory
  · exact Or.inl (readFile_of_aheadBy h.aheadBy (hp.untouched h hd))
  · obtain ⟨after, hsteps⟩ := hp.steps
    cases hrefuse : refuse? p with
    | some e => exact Or.inl (by rw [readFile_of_refused hrefuse, readFile_of_refused hrefuse])
    | none =>
      -- all walks end at the next name, or before
      have hfails : ∀ {s : FileTree} {e : Fault}, s.origin p = t.origin dir →
          s.walk (t.origin dir) (stepsOf dir ++ [.down name]) = .error e →
          s.readFile p = .error e := fun horigin he =>
        readFile_of_walk_error hrefuse hsteps (horigin ▸ he)
      have horigin : t'.origin p = t.origin dir := (h.origin p).trans hp.origin
      obtain ⟨e, he⟩ := exists_walk_error (n := name) hd
      rcases hp.walk_eq_or h with hsame | ⟨hmissed, hrefused, hlong⟩
      · exact Or.inl ((hfails horigin (hsame.trans he)).trans (hfails hp.origin he).symm)
      · exact Or.inr ⟨hfails hp.origin hmissed, hfails horigin hrefused, hd, hlong⟩

end Baseline.FileTree
