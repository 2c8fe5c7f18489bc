import Baseline.Proofs.FileTree.Change
import Baseline.Proofs.FileTree.Climb

/-!
# What a walk meets

What is there has directories above it (`directory_of_suffix`) and nothing is below
what is no directory.  So a walk that does not lead up says by where it stops what is
at its end: to a directory it gets, unless a name is too long (`walk_of_directory`), and
when it misses something its end is missing too (`walk_ne_notFound`).
-/

namespace Baseline.FileTree

open Path

/-! ### What is there -/

theorem origin_directory (t : FileTree) (p : Path) : t.node? (t.origin p) = some .directory := by
  unfold origin
  split
  · rfl
  · exact t.start_directory

/-- Nothing is below what is no directory. -/
theorem node?_of_not_directory {t : FileTree} {l : Location} (h : t.node? l ≠ some .directory)
    (n : Name) : t.node? (n :: l) = none :=
  Option.eq_none_iff_forall_ne_some.mpr fun node hn => h (t.closed n l node hn)

theorem content?_of_none {t : FileTree} {l : Location} (h : t.node? l = none) :
    t.content? l = none := by
  rw [content?, h]

theorem ne_none_of_suffix {t : FileTree} {l m : Location} (h : t.node? l ≠ none) (hm : m <:+ l) :
    t.node? m ≠ none := by
  induction l with
  | nil => exact List.suffix_nil.mp hm ▸ h
  | cons n l ih =>
    rcases List.suffix_cons_iff.mp hm with rfl | hm
    · exact h
    · obtain ⟨node, hnode⟩ := Option.ne_none_iff_exists'.mp h
      exact ih (by simp [node?, t.closed n l node hnode]) hm

/-- **What is above something** is a directory. -/
theorem directory_of_suffix {t : FileTree} {l m : Location} (h : t.node? l = some .directory)
    (hm : m <:+ l) : t.node? m = some .directory := by
  induction l with
  | nil => exact List.suffix_nil.mp hm ▸ h
  | cons n l ih =>
    rcases List.suffix_cons_iff.mp hm with rfl | hm
    · exact h
    · exact ih (t.closed n l _ h) hm

/-! ### Walks that do not lead up -/

theorem suffix_foldl_after {steps : List Step} (hup : NoUp steps) (loc : Location) :
    loc <:+ steps.foldl Step.after loc := foldl_after hup loc ▸ List.suffix_append _ _

/-- A walk to what is there misses nothing. -/
theorem walk_ne_notFound {t : FileTree} {steps : List Step} {loc : Location} (hup : NoUp steps)
    (h : t.node? (steps.foldl Step.after loc) ≠ none) :
    t.walk loc steps ≠ .error .notFound := by
  induction steps generalizing loc with
  | nil => simp [walk]
  | cons s steps ih =>
    have hrest : NoUp steps := fun s' hs => hup s' (List.mem_cons_of_mem s hs)
    by_cases hd : t.node? loc = some .directory
    · cases s with
      | up => exact absurd rfl (hup .up (by simp))
      | stay =>
        rw [walk, if_pos hd]
        exact ih hrest h
      | down n =>
        have hn : t.node? (n :: loc) ≠ none := ne_none_of_suffix h (suffix_foldl_after hrest _)
        rw [walk, if_pos hd]
        split
        · simp [Fault.nameTooLong, Fault.notFound]
        · rw [if_neg (by simpa using hn)]
          exact ih hrest h
    · cases s <;> simp [walk, hd, Fault.notDirectory, Fault.notFound]

/-- A walk to a directory gets there, unless a name is too long. -/
theorem walk_of_directory {t : FileTree} {steps : List Step} {loc : Location} (hup : NoUp steps)
    (h : t.node? (steps.foldl Step.after loc) = some .directory) :
    t.walk loc steps = .ok (steps.foldl Step.after loc) ∨
      t.walk loc steps = .error .nameTooLong := by
  induction steps generalizing loc with
  | nil => exact Or.inl rfl
  | cons s steps ih =>
    have hrest : NoUp steps := fun s' hs => hup s' (List.mem_cons_of_mem s hs)
    have hd : t.node? loc = some .directory := directory_of_suffix h (suffix_foldl_after hup loc)
    cases s with
    | up => exact absurd rfl (hup .up (by simp))
    | stay =>
      rw [walk, if_pos hd]
      exact ih hrest h
    | down n =>
      have hn : t.node? (n :: loc) = some .directory :=
        directory_of_suffix h (suffix_foldl_after hrest _)
      rw [walk, if_pos hd]
      split
      · exact Or.inr rfl
      · rw [if_neg (by simp [hn])]
        exact ih hrest h

/-- Staying leads nowhere. -/
theorem walk_stays {t : FileTree} {steps : List Step} {loc : Location}
    (hd : t.node? loc = some .directory) (h : ∀ s ∈ steps, s = .stay) :
    t.walk loc steps = .ok loc := by
  induction steps with
  | nil => rfl
  | cons s steps ih =>
    obtain rfl : s = .stay := h s (by simp)
    rw [walk, if_pos hd]
    exact ih fun s' hs => h s' (List.mem_cons_of_mem _ hs)

theorem walk_eq_error {t : FileTree} {steps : List Step} {loc : Location} {e : Fault}
    (h : t.walk loc steps = .error e) :
    e = .notFound ∨ e = .nameTooLong ∨ e = .notDirectory := by
  induction steps generalizing loc with
  | nil => simp [walk] at h
  | cons s steps ih =>
    by_cases hd : t.node? loc = some .directory
    · cases s with
      | stay | up =>
        rw [walk, if_pos hd] at h
        exact ih h
      | down n =>
        rw [walk, if_pos hd] at h
        split at h
        · exact Or.inr (Or.inl (Except.error.inj h).symm)
        · split at h
          · exact Or.inl (Except.error.inj h).symm
          · exact ih h
    · cases s <;> simp [walk, hd] at h <;> exact Or.inr (Or.inr h.symm)

end Baseline.FileTree
