import Baseline.Diff.Unified

/-!
# Diffs of equal inputs

Lines compared with themselves agree all the way, so the script is one run of
equal lines or nothing; such a script has no group, and then no hunk and no name
is written (`unified_self`).
-/

namespace Baseline.Diff

theorem matchAhead_self (a : Array Bytes) (length i : Nat) :
    matchAhead a a length i i = length := by
  induction length generalizing i with
  | zero => rfl
  | succ length ih => rw [matchAhead, if_pos rfl, ih]

/-- A script without changes: nothing, or one run of equal lines. -/
def Unchanged (script : List Edit) : Prop := script = [] ∨ ∃ e : Edit, e.isKeep ∧ script = [e]

theorem unchanged_script_self (a : Array Bytes) : Unchanged (script a a) := by
  have hs : script a a = keepRun 0 0 a.size := by
    unfold script divide
    simp only [Box.width, Box.height, Nat.sub_zero, Nat.min_self, matchAhead_self, Nat.zero_add,
      Nat.sub_self, matchBehind, Nat.le_refl, and_self, if_true, List.append_nil]
    simp [keepRun]
  rw [hs, keepRun]
  split
  · exact Or.inl rfl
  · exact Or.inr ⟨_, rfl, rfl⟩

theorem slideAll_unchanged {old new : Array Bytes} {action : Action} {moves : Nat} {s : List Edit}
    (hs : Unchanged s) (ha : action ≠ .keep) : slideAll old new action moves [] s = s := by
  rcases hs with rfl | ⟨e, he, rfl⟩
  · simp [slideAll]
  · have hne : e.action ≠ action := by
      intro h
      exact ha (h ▸ by simpa [Edit.isKeep] using he)
    cases moves with
    | zero => simp [slideAll]
    | succ moves => simp [slideAll, hne]

theorem unchanged_edits_self (a : Array Bytes) : Unchanged (edits a a) := by
  have hs := unchanged_script_self a
  have hc : compact a a (script a a) = script a a := by
    unfold compact
    dsimp only
    rw [slideAll_unchanged hs (by decide), slideAll_unchanged hs (by decide)]
  rw [edits, hc]
  rcases hs with h | ⟨e, he, h⟩
  · exact Or.inl (by rw [h]; rfl)
  · have hk : e.action = .keep := by simpa [Edit.isKeep] using he
    exact Or.inr ⟨e, he, by rw [h]; simp [combine, hk, Pending.changes, Pending.none, Pending.grow]⟩

/-- A single run of equal lines stays one when an end of it is cut, and is not longer. -/
theorem trim_keep {e : Edit} (he : e.isKeep) (n : Nat) :
    ∃ e' : Edit, e'.isKeep ∧ e'.oldLength ≤ n ∧ trimLast n (trimFirst n [e]) = [e'] := by
  have hfirst : trimFirst n [e] =
      [(e.moveDown (e.oldLength - n)).shorten (e.oldLength - n)] := by simp [trimFirst, he]
  have hkeep : ((e.moveDown (e.oldLength - n)).shorten (e.oldLength - n)).isKeep := he
  refine ⟨_, ?_, ?_, by rw [hfirst, trimLast, if_pos hkeep]⟩
  · exact he
  · simp only [Edit.shorten, Edit.moveDown]
    omega

theorem groups_unchanged (n : Nat) {s : List Edit} (hs : Unchanged s) : groups n s = [] := by
  rcases hs with rfl | ⟨e, he, rfl⟩
  · rfl
  · obtain ⟨e', he', hlen, ht⟩ := trim_keep he n
    have hshort : ¬ (e'.isKeep ∧ 2 * n < e'.oldLength) := by omega
    rw [groups, ht, splitGroups, if_neg hshort, splitGroups]
    simp [he']

/-- **Equal inputs have an empty diff.** -/
theorem unified_self (s : Bytes) (expectedName actualName : String) :
    unified s s expectedName actualName = [] := by
  have h : hunks s s = [] := by
    simp only [hunks]
    rw [groups_unchanged _ (unchanged_edits_self _)]
    rfl
  rw [unified, h]

end Baseline.Diff
