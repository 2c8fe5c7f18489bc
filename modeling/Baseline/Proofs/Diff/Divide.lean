import Baseline.Proofs.Diff.Search

/-!
# The script of a box

The lines kept at both ends of a box and the edits in between make a script from the first line of
the box to its last on both sides (`runs_divide`).  The induction is on how often a box may be
divided; the middle is in the box (`middle_in_box`), so the scripts of both parts follow one
another.
-/

namespace Baseline.Diff

variable {old new : Array Bytes}

theorem runs_delete {i j i' : Nat} (h : i < i') :
    Runs (Fits old new) i j [.delete i j (i' - i)] i' j :=
  .cons (.delete (Nat.sub_pos_of_lt h) j)
    (runs_nil.mpr ⟨(Nat.add_sub_cancel' (Nat.le_of_lt h)).symm, rfl⟩)

theorem runs_insert {i j j' : Nat} (h : j < j') (oldStart : Nat) :
    Runs (Fits old new) i j [.insert oldStart j (j' - j)] i j' :=
  .cons (.insert (Nat.sub_pos_of_lt h) oldStart)
    (runs_nil.mpr ⟨rfl, (Nat.add_sub_cancel' (Nat.le_of_lt h)).symm⟩)

theorem runs_replaced {i j i' j' : Nat} (hi : i < i') (hj : j < j') :
    Runs (Fits old new) i j [.delete i j (i' - i), .insert i j (j' - j)] i' j' :=
  (runs_delete hi).append (runs_insert hj i)

/-- What is kept at both ends of a box, around a script of the rest. -/
theorem runs_between {b : Box} {head tail : Nat} {inner : List Edit}
    (hold : b.oldStart + head + tail ≤ b.oldEnd) (hnew : b.newStart + head + tail ≤ b.newEnd)
    (hhead : Same old new b.oldStart b.newStart head)
    (htail : Same old new (b.oldEnd - tail) (b.newEnd - tail) tail)
    (hinner : Runs (Fits old new) (b.oldStart + head) (b.newStart + head) inner (b.oldEnd - tail)
      (b.newEnd - tail)) :
    Runs (Fits old new) b.oldStart b.newStart (keepRun b.oldStart b.newStart head ++ inner ++
      keepRun (b.oldEnd - tail) (b.newEnd - tail) tail) b.oldEnd b.newEnd := by
  have hlast := runs_keepRun htail
  rw [Nat.sub_add_cancel (by omega), Nat.sub_add_cancel (by omega)] at hlast
  exact ((runs_keepRun hhead).append hinner).append hlast

/-- **The script of a box** turns its old lines into its new ones. -/
theorem runs_divide (divisions : Nat) {b : Box} (hold : b.oldStart ≤ b.oldEnd)
    (hnew : b.newStart ≤ b.newEnd) :
    Runs (Fits old new) b.oldStart b.newStart (divide old new divisions b) b.oldEnd b.newEnd := by
  induction divisions using Nat.strongRecOn generalizing b with
  | ind divisions ih =>
    rw [divide.eq_def]
    dsimp only
    have hle := matchAhead_le old new (min b.width b.height) b.oldStart b.newStart
    have hsame := @same_matchAhead old new (min b.width b.height) b.oldStart b.newStart
    generalize matchAhead old new (min b.width b.height) b.oldStart b.newStart = head at *
    rw [Box.width, Box.height] at hle
    have hle' := matchBehind_le old new (min (b.oldEnd - (b.oldStart + head))
      (b.newEnd - (b.newStart + head))) b.oldEnd b.newEnd
    have hsame' := @same_matchBehind old new
      (min (b.oldEnd - (b.oldStart + head)) (b.newEnd - (b.newStart + head))) b.oldEnd b.newEnd
      (by omega) (by omega)
    generalize matchBehind old new (min (b.oldEnd - (b.oldStart + head))
      (b.newEnd - (b.newStart + head))) b.oldEnd b.newEnd = tail at *
    refine runs_between (by omega) (by omega) hsame hsame' ?_
    split
    · rename_i hempty
      exact runs_nil.mpr ⟨by omega, by omega⟩
    split
    · rename_i hdeleted
      have hrun := @runs_delete old new (b.oldStart + head) (b.newStart + head) (b.oldEnd - tail)
        (by omega)
      rwa [show b.newEnd - tail = b.newStart + head by omega]
    split
    · have hrun := @runs_insert old new (b.oldStart + head) (b.newStart + head) (b.newEnd - tail)
        (by omega) (b.oldStart + head)
      rwa [show b.oldEnd - tail = b.oldStart + head by omega]
    have hreplaced := @runs_replaced old new (b.oldStart + head) (b.newStart + head)
      (b.oldEnd - tail) (b.newEnd - tail) (by omega) (by omega)
    split
    · exact hreplaced
    split
    · rename_i x y hmiddle
      obtain ⟨⟨hx, hx'⟩, hy, hy'⟩ := middle_in_box (by dsimp only; omega) (by dsimp only; omega)
        hmiddle
      have hbefore := ih _ (Nat.lt_succ_self _) (b := ⟨_, x, _, y⟩) hx hy
      have hafter := ih _ (Nat.lt_succ_self _) (b := ⟨x, _, y, _⟩) hx' hy'
      exact hbefore.append hafter
    · exact hreplaced

/-- **A script** turns the old lines into the new ones. -/
theorem runs_script (old new : Array Bytes) :
    Runs (Fits old new) 0 0 (script old new) old.size new.size :=
  runs_divide (b := ⟨0, old.size, 0, new.size⟩) _ (Nat.zero_le _) (Nat.zero_le _)

end Baseline.Diff
