import Baseline.Diff.Unified

/-!
# What a script does

A script is read from its first edit on, with the old line `i` and the new line `j` that it has
come to.  An edit *fits* there (`Fits`) when it says what happens next: a run of equal lines
says where it is on both sides, a deletion where it is among the old lines and an insertion where it
is among the new ones.  The position of a change on the other side means nothing: changes that
are moved past each other keep it as it was.

`Runs fits i j s i' j'` says that every edit of `s` fits where it is come to, from `i`
and `j` to `i'` and `j'`.  `runs_append` takes such a reading apart and puts it
together; everything that is done to a script is a change of a part of it.
-/

namespace Baseline.Diff

variable {old new : Array Bytes}

/-! ### Equal lines -/

/-- The `n` lines from `i` and `j` on are the same. -/
def Same (old new : Array Bytes) (i j n : Nat) : Prop := ∀ k < n, old[i + k]? = new[j + k]?

theorem same_zero (i j : Nat) : Same old new i j 0 := fun _ hk => absurd hk (Nat.not_lt_zero _)

theorem same_append {i j m n : Nat} :
    Same old new i j (m + n) ↔ Same old new i j m ∧ Same old new (i + m) (j + m) n := by
  constructor
  · intro h
    refine ⟨fun k hk => h k (by omega), fun k hk => ?_⟩
    rw [Nat.add_assoc, Nat.add_assoc]
    exact h (m + k) (by omega)
  · rintro ⟨hm, hn⟩ k hk
    by_cases hlt : k < m
    · exact hm k hlt
    · have h := hn (k - m) (by omega)
      rw [Nat.add_assoc, Nat.add_assoc, Nat.add_sub_cancel' (Nat.le_of_not_lt hlt)] at h
      exact h

theorem same_matchAhead (length i j : Nat) :
    Same old new i j (matchAhead old new length i j) := by
  induction length generalizing i j with
  | zero => exact same_zero i j
  | succ length ih =>
    rw [matchAhead]
    split
    · rename_i heq
      rw [Nat.add_comm]
      refine same_append.mpr ⟨fun k hk => ?_, ih (i + 1) (j + 1)⟩
      obtain rfl : k = 0 := by omega
      exact heq
    · exact same_zero i j

/-- Where a run ends before it has to, the lines differ. -/
theorem ne_of_matchAhead_lt {length i j : Nat} (h : matchAhead old new length i j < length) :
    old[i + matchAhead old new length i j]? ≠ new[j + matchAhead old new length i j]? := by
  induction length generalizing i j with
  | zero => exact absurd h (Nat.not_lt_zero _)
  | succ length ih =>
    rw [matchAhead] at h ⊢
    split
    · rename_i heq
      rw [if_pos heq] at h
      have hrest := ih (i := i + 1) (j := j + 1) (by omega)
      rwa [Nat.add_assoc, Nat.add_comm 1, Nat.add_assoc, Nat.add_comm 1] at hrest
    · assumption

theorem same_matchBehind {length i j : Nat} (hi : length ≤ i) (hj : length ≤ j) :
    Same old new (i - matchBehind old new length i j) (j - matchBehind old new length i j)
      (matchBehind old new length i j) := by
  induction length generalizing i j with
  | zero => exact same_zero _ _
  | succ length ih =>
    rw [matchBehind]
    split
    · rename_i heq
      have hle := matchBehind_le old new length (i - 1) (j - 1)
      have hrest := ih (i := i - 1) (j := j - 1) (by omega) (by omega)
      rw [show i - (matchBehind old new length (i - 1) (j - 1) + 1) =
          i - 1 - matchBehind old new length (i - 1) (j - 1) by omega,
        show j - (matchBehind old new length (i - 1) (j - 1) + 1) =
          j - 1 - matchBehind old new length (i - 1) (j - 1) by omega]
      refine same_append.mpr ⟨hrest, fun k hk => ?_⟩
      obtain rfl : k = 0 := by omega
      rw [Nat.add_zero, Nat.add_zero, Nat.sub_add_cancel (by omega), Nat.sub_add_cancel (by omega)]
      exact heq
    · exact same_zero _ _

theorem ne_of_matchBehind_lt {length i j : Nat} (h : matchBehind old new length i j < length) :
    old[i - matchBehind old new length i j - 1]? ≠
      new[j - matchBehind old new length i j - 1]? := by
  induction length generalizing i j with
  | zero => exact absurd h (Nat.not_lt_zero _)
  | succ length ih =>
    rw [matchBehind] at h ⊢
    split
    · rename_i heq
      rw [if_pos heq] at h
      have hrest := ih (i := i - 1) (j := j - 1) (by omega)
      rwa [Nat.sub_sub i, Nat.sub_sub j, Nat.add_comm 1] at hrest
    · assumption

/-! ### Edits -/

/-- An edit that says what happens at the old line `i` and the new line `j`, and is not empty. -/
inductive Fits (old new : Array Bytes) (i j : Nat) : Edit → Prop
  | keep {n : Nat} (hn : 0 < n) (h : Same old new i j n) : Fits old new i j (.keep i j n)
  | delete {n : Nat} (hn : 0 < n) (newStart : Nat) : Fits old new i j (.delete i newStart n)
  | insert {n : Nat} (hn : 0 < n) (oldStart : Nat) : Fits old new i j (.insert oldStart j n)

/-- A script whose edits fit one after the other, from `i` and `j` on. -/
inductive Runs (fits : Nat → Nat → Edit → Prop) : Nat → Nat → List Edit → Nat → Nat → Prop
  | nil (i j : Nat) : Runs fits i j [] i j
  | cons {i j i' j' : Nat} {e : Edit} {s : List Edit} (he : fits i j e)
    (hs : Runs fits (i + e.oldLength) (j + e.newLength) s i' j') : Runs fits i j (e :: s) i' j'

variable {fits : Nat → Nat → Edit → Prop}

theorem runs_nil {i j i' j' : Nat} : Runs fits i j [] i' j' ↔ i' = i ∧ j' = j := by
  constructor
  · rintro ⟨⟩
    exact ⟨rfl, rfl⟩
  · rintro ⟨rfl, rfl⟩
    exact .nil _ _

theorem runs_cons {i j i' j' : Nat} {e : Edit} {s : List Edit} :
    Runs fits i j (e :: s) i' j' ↔
      fits i j e ∧ Runs fits (i + e.oldLength) (j + e.newLength) s i' j' := by
  constructor
  · rintro (_ | ⟨he, hs⟩)
    exact ⟨he, hs⟩
  · exact fun h => .cons h.1 h.2

/-- **A script in two parts.** -/
theorem runs_append {i j i' j' : Nat} {s u : List Edit} :
    Runs fits i j (s ++ u) i' j' ↔
      ∃ i₁ j₁, Runs fits i j s i₁ j₁ ∧ Runs fits i₁ j₁ u i' j' := by
  induction s generalizing i j with
  | nil =>
    constructor
    · intro h
      exact ⟨i, j, .nil i j, h⟩
    · rintro ⟨i₁, j₁, h, hu⟩
      obtain ⟨rfl, rfl⟩ := runs_nil.mp h
      exact hu
  | cons e s ih =>
    rw [List.cons_append, runs_cons, ih]
    constructor
    · rintro ⟨he, i₁, j₁, hs, hu⟩
      exact ⟨i₁, j₁, .cons he hs, hu⟩
    · rintro ⟨i₁, j₁, h, hu⟩
      obtain ⟨he, hs⟩ := runs_cons.mp h
      exact ⟨he, i₁, j₁, hs, hu⟩

theorem Runs.append {i j i₁ j₁ i' j' : Nat} {s u : List Edit} (hs : Runs fits i j s i₁ j₁)
    (hu : Runs fits i₁ j₁ u i' j') : Runs fits i j (s ++ u) i' j' :=
  runs_append.mpr ⟨i₁, j₁, hs, hu⟩

theorem runs_keepRun {i j n : Nat} (h : Same old new i j n) :
    Runs (Fits old new) i j (keepRun i j n) (i + n) (j + n) := by
  rw [keepRun]
  split
  · rename_i hn
    rw [hn]
    exact .nil i j
  · rename_i hn
    exact .cons (.keep (Nat.pos_of_ne_zero hn) h) (.nil _ _)

end Baseline.Diff
