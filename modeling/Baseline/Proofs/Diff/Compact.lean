import Baseline.Diff.Compact
import Baseline.Proofs.Diff.Script

/-!
# Compacting keeps what a script does

Moving a change, merging two edits and passing two changes by each other are changes of a few
neighbours in a script, so each of them is stated for the neighbours and whatever comes after them
(`Becomes`), and `Becomes.within` puts the edits before them back.  An insertion can be moved along
equal lines because these are the lines it inserts: above it they are the last ones
(`becomes_up`), below it the first ones (`becomes_down`).  A deletion inserts nothing, so it is only
merged and passed by.

`becomes_slideUp` and `becomes_slideDown` follow the moves of one change, `runs_compact` those of
all.
-/

namespace Baseline.Diff

variable {old new : Array Bytes}

theorem Edit.isKeep_merge (e next : Edit) : (e.merge next).isKeep = e.isKeep := rfl

/-- Wherever the first script leads from one point to another, the second one does. -/
def Becomes (old new : Array Bytes) (s u : List Edit) : Prop :=
  ∀ i j i' j', Runs (Fits old new) i j s i' j' → Runs (Fits old new) i j u i' j'

namespace Becomes

variable {s u w : List Edit}

theorem refl (s : List Edit) : Becomes old new s s := fun _ _ _ _ h => h

theorem trans (h : Becomes old new s u) (h' : Becomes old new u w) : Becomes old new s w :=
  fun i j i' j' hs => h' i j i' j' (h i j i' j' hs)

theorem within (p : List Edit) (h : Becomes old new s u) : Becomes old new (p ++ s) (p ++ u) := by
  intro i j i' j' hs
  obtain ⟨i₁, j₁, hp, hs⟩ := runs_append.mp hs
  exact hp.append (h i₁ j₁ i' j' hs)

end Becomes

/-! ### Neighbours -/

section

variable {e last next : Edit} {s : List Edit} {i j n : Nat}

theorem Fits.merge (he : Fits old new i j e)
    (hnext : Fits old new (i + e.oldLength) (j + e.newLength) next)
    (h : e.action = next.action) : Fits old new i j (e.merge next) := by
  cases he with
  | keep hn hsame =>
    cases hnext with
    | keep hm hsame' => exact .keep (Nat.add_pos_left hn _) (same_append.mpr ⟨hsame, hsame'⟩)
    | delete | insert => cases h
  | delete hn o =>
    cases hnext with
    | delete => exact .delete (Nat.add_pos_left hn _) o
    | keep | insert => cases h
  | insert hn o =>
    cases hnext with
    | insert => exact .insert (Nat.add_pos_left hn _) o
    | keep | delete => cases h

/-- Two neighbours of one kind are one edit. -/
theorem becomes_merge (h : e.action = next.action) :
    Becomes old new (e :: next :: s) (e.merge next :: s) := by
  intro i j i' j' hruns
  obtain ⟨he, hruns⟩ := runs_cons.mp hruns
  obtain ⟨hnext, hs⟩ := runs_cons.mp hruns
  refine .cons (he.merge hnext h) ?_
  rwa [Nat.add_assoc, Nat.add_assoc] at hs

/-- A deletion and an insertion pass each other. -/
theorem becomes_swap (he : e.isKeep = false) (hnext : next.isKeep = false)
    (h : e.action ≠ next.action) : Becomes old new (e :: next :: s) (next :: e :: s) := by
  intro i j i' j' hruns
  obtain ⟨hfits, hruns⟩ := runs_cons.mp hruns
  obtain ⟨hfits', hs⟩ := runs_cons.mp hruns
  cases hfits with
  | keep hn hsame => simp [Edit.isKeep, Edit.keep] at he
  | delete hn o =>
    cases hfits' with
    | keep hm hsame => simp [Edit.isKeep, Edit.keep] at hnext
    | delete hm o' => exact absurd rfl h
    | insert hm o' => exact .cons (.insert hm o') (.cons (.delete hn o) hs)
  | insert hn o =>
    cases hfits' with
    | keep hm hsame => simp [Edit.isKeep, Edit.keep] at hnext
    | delete hm o' => exact .cons (.delete hm o') (.cons (.insert hn o) hs)
    | insert hm o' => exact absurd rfl h

theorem Fits.nonempty (h : Fits old new i j e) : e.isEmpty = false := by
  cases h with
  | keep hn | delete hn | insert hn =>
    simp [Edit.isEmpty, Edit.keep, Edit.delete, Edit.insert, Nat.ne_of_gt hn]

/-- No edit of a script is empty. -/
theorem becomes_drop (h : e.isEmpty = true) : Becomes old new (e :: s) s := by
  intro i j i' j' hruns
  have hfits := (runs_cons.mp hruns).1
  rw [hfits.nonempty] at h
  cases h

/-! ### Equal lines above and below a change -/

/-- Equal lines in front of the rest of a script. -/
theorem runs_keepBelow {after : List Edit} {x y i' j' : Nat} (hn : 0 < n)
    (hold : last.oldEnd = x + n) (hnew : e.newEnd = y + n) (hsame : Same old new x y n)
    (h : Runs (Fits old new) (x + n) (y + n) after i' j') :
    Runs (Fits old new) x y (keepBelow last e n after) i' j' := by
  have hkeep : Fits old new x y (.keep (last.oldEnd - n) (e.newEnd - n) n) := by
    rw [hold, hnew, Nat.add_sub_cancel, Nat.add_sub_cancel]
    exact .keep hn hsame
  cases after with
  | nil => exact .cons hkeep h
  | cons next more =>
    rw [keepBelow]
    split
    · rename_i hnext
      obtain ⟨hfits, hmore⟩ := runs_cons.mp h
      cases hfits with
      | @keep m hm hsame' =>
        have hgrown : Fits old new x y (((Edit.keep (x + n) (y + n) m).moveUp n).lengthen n) := by
          have hfits : Fits old new x y (.keep x y (m + n)) :=
            .keep (by omega) (by rw [Nat.add_comm]; exact same_append.mpr ⟨hsame, hsame'⟩)
          simpa [Edit.keep, Edit.moveUp, Edit.lengthen] using hfits
        refine .cons hgrown ?_
        simpa [Edit.keep, Edit.moveUp, Edit.lengthen, Nat.add_assoc, Nat.add_comm n] using hmore
      | delete hm o => simp [Edit.isKeep, Edit.delete] at hnext
      | insert hm o => simp [Edit.isKeep, Edit.insert] at hnext
    · exact .cons hkeep h

/-- Equal lines at the end of the script so far. -/
theorem runs_keepAbove {before : List Edit} {x y : Nat} (hn : 0 < n)
    (hold : next.oldStart = x) (hnew : e.newStart = y) (hsame : Same old new x y n)
    (h : Runs (Fits old new) i j before.reverse x y) :
    Runs (Fits old new) i j (keepAbove next e n before).reverse (x + n) (y + n) := by
  have hkeep : Runs (Fits old new) x y [.keep next.oldStart e.newStart n] (x + n) (y + n) := by
    rw [hold, hnew]
    exact .cons (.keep hn hsame) (.nil _ _)
  cases before with
  | nil => exact h.append hkeep
  | cons last more =>
    rw [keepAbove]
    split
    · rename_i hlast
      rw [List.reverse_cons] at h ⊢
      obtain ⟨i₁, j₁, hmore, h⟩ := runs_append.mp h
      obtain ⟨hfits, h⟩ := runs_cons.mp h
      obtain ⟨rfl, rfl⟩ := runs_nil.mp h
      refine hmore.append ?_
      cases hfits with
      | @keep m hm hsame' =>
        refine .cons (.keep (by omega) (same_append.mpr ⟨hsame', hsame⟩)) (runs_nil.mpr ?_)
        exact ⟨Nat.add_assoc .., Nat.add_assoc ..⟩
      | delete hm o => simp [Edit.isKeep, Edit.delete] at hlast
      | insert hm o => simp [Edit.isKeep, Edit.insert] at hlast
    · rw [List.reverse_cons]
      exact h.append hkeep

/-- What is left of a run of equal lines when `n` of them are taken off its end. -/
def keptAbove (last : Edit) (n : Nat) : List Edit :=
  if (last.shorten n).isEmpty then [] else [last.shorten n]

/-- What is left of a run of equal lines when `n` of them are taken off its start. -/
def keptBelow (next : Edit) (n : Nat) : List Edit :=
  if (next.shorten n).isEmpty then [] else [(next.shorten n).moveDown n]

theorem keptAbove_keep (i j m n : Nat) : keptAbove (.keep i j m) n = keepRun i j (m - n) := by
  simp [keptAbove, keepRun, Edit.keep, Edit.shorten, Edit.isEmpty]

theorem keptBelow_keep (i j m n : Nat) :
    keptBelow (.keep i j m) n = keepRun (i + n) (j + n) (m - n) := by
  simp [keptBelow, keepRun, Edit.keep, Edit.shorten, Edit.isEmpty, Edit.moveDown]

/-- An insertion behind equal lines, moved up by the last of them. -/
theorem runs_up {k m o i' j' : Nat} (hn : 0 < n) (hnm : n ≤ m) (hk : 0 < k)
    (hsame : Same old new i j m) (hshared : Same old new (i + m - n) (j + m + k - n) n)
    (hs : Runs (Fits old new) (i + m) (j + m + k) s i' j') :
    Runs (Fits old new) i j (keptAbove (.keep i j m) n ++ (Edit.insert o (j + m) k).moveUp n ::
      keepBelow (.keep i j m) (.insert o (j + m) k) n s) i' j' := by
  obtain ⟨p, rfl⟩ := Nat.exists_eq_add_of_le' hnm
  obtain ⟨hfirst, -⟩ := same_append.mp hsame
  have hmoved : (Edit.insert o (j + (p + n)) k).moveUp n = .insert (o - n) (j + p) k := by
    simp [Edit.insert, Edit.moveUp, ← Nat.add_assoc]
  rw [show i + (p + n) - n = i + p by omega,
    show j + (p + n) + k - n = j + p + k by omega] at hshared
  rw [show i + (p + n) = i + p + n by omega, show j + (p + n) + k = j + p + k + n by omega] at hs
  rw [keptAbove_keep, Nat.add_sub_cancel, hmoved]
  refine (runs_keepRun hfirst).append (.cons (.insert hk _) (runs_keepBelow hn ?_ ?_ hshared hs))
  · exact (Nat.add_assoc i p n).symm
  · simp only [Edit.newEnd, Edit.insert]
    omega

/-- An insertion in front of equal lines, moved down by the first of them. -/
theorem runs_down {before : List Edit} {k m o x y i' j' : Nat} (hn : 0 < n) (hnm : n ≤ m)
    (hk : 0 < k) (hbefore : Runs (Fits old new) i j before.reverse x y)
    (hshared : Same old new x y n) (hsame : Same old new x (y + k) m)
    (hs : Runs (Fits old new) (x + m) (y + k + m) s i' j') :
    Runs (Fits old new) i j ((keepAbove (.keep x (y + k) m) (.insert o y k) n before).reverse ++
      (Edit.insert o y k).moveDown n :: (keptBelow (.keep x (y + k) m) n ++ s)) i' j' := by
  obtain ⟨p, rfl⟩ := Nat.exists_eq_add_of_le hnm
  obtain ⟨-, hlast⟩ := same_append.mp hsame
  have hmoved : (Edit.insert o y k).moveDown n = .insert (o + n) (y + n) k := rfl
  rw [keptBelow_keep, Nat.add_sub_cancel_left, hmoved]
  refine (runs_keepAbove hn rfl rfl hshared hbefore).append (.cons (.insert hk _) ?_)
  rw [← Nat.add_assoc, ← Nat.add_assoc] at hs
  have hrest := (runs_keepRun hlast).append hs
  rw [Nat.add_right_comm y k n] at hrest ⊢
  exact hrest

/-- **A change moves up** along the lines that it ends with. -/
theorem becomes_up (hlast : last.isKeep = true) (he : e.isKeep = false)
    (hn : 0 < sharedEnd old new last e) :
    Becomes old new (last :: e :: s) (keptAbove last (sharedEnd old new last e) ++
      e.moveUp (sharedEnd old new last e) :: keepBelow last e (sharedEnd old new last e) s) := by
  intro i j i' j' hruns
  obtain ⟨hfits, hruns⟩ := runs_cons.mp hruns
  obtain ⟨hfits', hs⟩ := runs_cons.mp hruns
  cases hfits with
  | delete | insert => cases hlast
  | @keep m hm hsame =>
    cases hfits' with
    | keep => cases he
    | delete => simp [sharedEnd, Edit.delete, matchBehind] at hn
    | @insert k hk o =>
      have hshared := @same_matchBehind old new (min m k) (i + m) (j + m + k) (by omega) (by omega)
      exact runs_up hn (sharedEnd_le ..) hk hsame hshared hs

/-- **A change moves down** along the lines that it starts with. -/
theorem becomes_down {before : List Edit} (hnext : next.isKeep = true) (he : e.isKeep = false)
    (hn : 0 < sharedStart old new next e) :
    Becomes old new (before.reverse ++ e :: next :: s)
      ((keepAbove next e (sharedStart old new next e) before).reverse ++
        e.moveDown (sharedStart old new next e) ::
          (keptBelow next (sharedStart old new next e) ++ s)) := by
  intro i j i' j' h
  obtain ⟨x, y, hbefore, hruns⟩ := runs_append.mp h
  obtain ⟨hfits, hruns⟩ := runs_cons.mp hruns
  obtain ⟨hfits', hs⟩ := runs_cons.mp hruns
  cases hfits with
  | keep => cases he
  | @delete k hk o =>
    cases hfits' with
    | delete | insert => cases hnext
    | keep => simp [sharedStart, Edit.delete, matchAhead] at hn
  | @insert k hk o =>
    cases hfits' with
    | delete | insert => cases hnext
    | @keep m hm hsame =>
      exact runs_down hn (sharedStart_le ..) hk hbefore (same_matchAhead (min m k) x y) hsame hs

end

/-! ### The moves of a change -/

/-- The script in which an edit is picked out. -/
def Cursor.whole (c : Cursor) : List Edit := c.before.reverse ++ c.current :: c.after

/-- A change moved as far up as it goes is still a change, in a script that does the same. -/
theorem becomes_slideUp (before : List Edit) (e : Edit) (after : List Edit)
    (he : e.isKeep = false) :
    (slideUp old new before e after).current.isKeep = false ∧
      Becomes old new (before.reverse ++ e :: after) (slideUp old new before e after).whole := by
  fun_induction slideUp old new before e after with
  | case1 e after => exact ⟨he, .refl _⟩
  | case2 e after last more hlast n _ hn after' hempty ih =>
    obtain ⟨hcurrent, hmoved⟩ := ih he
    have hup := @becomes_up old new e last after hlast he hn
    rw [keptAbove, if_pos hempty] at hup
    rw [List.reverse_cons, List.append_assoc]
    exact ⟨hcurrent, (hup.within _).trans hmoved⟩
  | case3 e after last more hlast n _ hn after' hrest ih =>
    obtain ⟨hcurrent, hmoved⟩ := ih he
    have hup := @becomes_up old new e last after hlast he hn
    rw [keptAbove, if_neg hrest] at hup
    rw [List.reverse_cons, List.append_assoc] at hmoved ⊢
    exact ⟨hcurrent, (hup.within _).trans hmoved⟩
  | case4 e after last more hlast n _ hn hempty ih =>
    obtain ⟨hcurrent, hmoved⟩ := ih he
    rw [List.reverse_cons, List.append_assoc]
    exact ⟨hcurrent, (becomes_drop hempty).within _ |>.trans hmoved⟩
  | case5 e after last more hlast n _ hn hrest => exact ⟨he, .refl _⟩
  | case6 e after last more hlast h ih =>
    obtain ⟨hcurrent, hmoved⟩ := ih (by rw [Edit.isKeep_merge, Bool.eq_false_iff.mpr hlast])
    rw [List.reverse_cons, List.append_assoc]
    exact ⟨hcurrent, (becomes_merge h).within _ |>.trans hmoved⟩
  | case7 e after last more hlast h ih =>
    obtain ⟨hcurrent, hmoved⟩ := ih he
    rw [List.reverse_cons, List.append_assoc]
    exact ⟨hcurrent, (becomes_swap (by simpa using hlast) he h).within _ |>.trans hmoved⟩

/-- A change moved as far down as it goes is still a change, in a script that does the same. -/
theorem becomes_slideDown (before : List Edit) (e : Edit) (after : List Edit)
    (he : e.isKeep = false) :
    (slideDown old new before e after).current.isKeep = false ∧
      Becomes old new (before.reverse ++ e :: after) (slideDown old new before e after).whole := by
  fun_induction slideDown old new before e after with
  | case1 before e => exact ⟨he, .refl _⟩
  | case2 before e next more hnext n _ hn before' hempty ih =>
    obtain ⟨hcurrent, hmoved⟩ := ih he
    have hdown := @becomes_down old new e next more before hnext he hn
    rw [keptBelow, if_pos hempty] at hdown
    exact ⟨hcurrent, hdown.trans hmoved⟩
  | case3 before e next more hnext n _ hn before' hrest ih =>
    obtain ⟨hcurrent, hmoved⟩ := ih he
    have hdown := @becomes_down old new e next more before hnext he hn
    rw [keptBelow, if_neg hrest] at hdown
    exact ⟨hcurrent, hdown.trans hmoved⟩
  | case4 before e next more hnext n _ hn hempty ih =>
    obtain ⟨hcurrent, hmoved⟩ := ih he
    have hdrop := (@becomes_drop old new next more hempty).within (before.reverse ++ [e])
    rw [List.append_assoc, List.append_assoc] at hdrop
    exact ⟨hcurrent, hdrop.trans hmoved⟩
  | case5 before e next more hnext n _ hn hrest => exact ⟨he, .refl _⟩
  | case6 before e next more hnext h ih =>
    obtain ⟨hcurrent, hmoved⟩ := ih (by rwa [Edit.isKeep_merge])
    exact ⟨hcurrent, (becomes_merge h.symm).within _ |>.trans hmoved⟩
  | case7 before e next more hnext h ih =>
    obtain ⟨hcurrent, hmoved⟩ := ih he
    rw [List.reverse_cons, List.append_assoc] at hmoved
    have hswap := @becomes_swap old new e next more he (by simpa using hnext) fun heq => h heq.symm
    exact ⟨hcurrent, (hswap.within _).trans hmoved⟩

/-! ### The moves of all changes -/

theorem becomes_slideAll {action : Action} (haction : action ≠ .keep) (moves : Nat)
    (before after : List Edit) :
    Becomes old new (before.reverse ++ after) (slideAll old new action moves before after) := by
  induction moves generalizing before after with
  | zero =>
    cases after with
    | nil => simpa [slideAll] using Becomes.refl before.reverse
    | cons e after => simpa [slideAll] using Becomes.refl _
  | succ moves ih =>
    cases after with
    | nil => simpa [slideAll] using Becomes.refl before.reverse
    | cons e after =>
      rw [slideAll]
      split
      · rename_i h
        have he : e.isKeep = false := by simpa [Edit.isKeep, h] using haction
        dsimp only
        obtain ⟨hcurrent, hup⟩ := @becomes_slideUp old new before e after he
        generalize slideUp old new before e after = up at hcurrent hup
        obtain ⟨-, hdown⟩ := @becomes_slideDown old new up.before up.current up.after hcurrent
        generalize slideDown old new up.before up.current up.after = down at hdown
        have hrest := ih (down.current :: down.before) down.after
        rw [List.reverse_cons, List.append_assoc] at hrest
        exact hup.trans (hdown.trans hrest)
      · have hrest := ih (e :: before) after
        rwa [List.reverse_cons, List.append_assoc] at hrest

/-- **Compacting** keeps what a script does. -/
theorem becomes_compact (s : List Edit) : Becomes old new s (compact old new s) :=
  (becomes_slideAll (by decide) _ [] s).trans (becomes_slideAll (by decide) _ [] _)

end Baseline.Diff
