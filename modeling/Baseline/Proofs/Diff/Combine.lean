import Baseline.Proofs.Diff.Compact
import Baseline.Proofs.Diff.Divide
import Baseline.Diff.Unified
import Mathlib.Data.List.Chain

/-!
# The script that a diff shows

The last pass over a script puts a deletion and an insertion next to each other together as a
replacement, so that in the script that a diff shows (`edits`) equal lines and changes take turns
(`InTurn`).  What it has read and not yet put out reaches from one point to another as the edits
did (`Pending.Holds`), and one edit more keeps it so; `inTurn_combine` goes through a script in
this way, one case for each kind of edit and each thing that can be pending.

The script of both sides is found (`runs_script`), compacted (`becomes_compact`) and put together,
and in the end it leads from the first lines to the last ones: `inTurn_edits`.
-/

namespace Baseline.Diff

variable {old new : Array Bytes}

/-- An edit that fits, or a replacement of the lines that it is come to. -/
inductive Shows (old new : Array Bytes) (i j : Nat) : Edit → Prop
  | fits {e : Edit} (h : Fits old new i j e) : Shows old new i j e
  | replace {m n : Nat} (hm : 0 < m) (hn : 0 < n) : Shows old new i j ⟨.replace, i, j, m, n⟩

/-- A script in which equal lines and changes take turns; the first edit keeps lines or not. -/
inductive InTurn (old new : Array Bytes) : Bool → Nat → Nat → List Edit → Nat → Nat → Prop
  | nil (k : Bool) (i j : Nat) : InTurn old new k i j [] i j
  | cons {k : Bool} {i j i' j' : Nat} {e : Edit} {s : List Edit} (he : Shows old new i j e)
    (hk : e.isKeep = k)
    (hs : InTurn old new (!k) (i + e.oldLength) (j + e.newLength) s i' j') :
    InTurn old new k i j (e :: s) i' j'

namespace InTurn

variable {k : Bool} {i j i' j' : Nat} {e : Edit} {s : List Edit}

theorem keep {n : Nat} (hn : 0 < n) (h : Same old new i j n)
    (hs : InTurn old new false (i + n) (j + n) s i' j') :
    InTurn old new true i j (.keep i j n :: s) i' j' := .cons (.fits (.keep hn h)) rfl hs

theorem delete {n : Nat} (hn : 0 < n) (o : Nat) (hs : InTurn old new true (i + n) j s i' j') :
    InTurn old new false i j (.delete i o n :: s) i' j' := .cons (.fits (.delete hn o)) rfl hs

theorem insert {n : Nat} (hn : 0 < n) (o : Nat) (hs : InTurn old new true i (j + n) s i' j') :
    InTurn old new false i j (.insert o j n :: s) i' j' := .cons (.fits (.insert hn o)) rfl hs

theorem replace {m n : Nat} (hm : 0 < m) (hn : 0 < n)
    (hs : InTurn old new true (i + m) (j + n) s i' j') :
    InTurn old new false i j (⟨.replace, i, j, m, n⟩ :: s) i' j' := .cons (.replace hm hn) rfl hs

theorem runs (h : InTurn old new k i j s i' j') : Runs (Shows old new) i j s i' j' := by
  induction h with
  | nil => exact .nil _ _
  | cons he _ _ ih => exact .cons he ih

theorem isKeep_head (h : InTurn old new k i j s i' j') : ∀ e ∈ s.head?, e.isKeep = k := by
  cases h with
  | nil => simp
  | cons _ hk _ => simpa using hk

/-- Neighbours are not of one kind. -/
theorem isChain (h : InTurn old new k i j s i' j') : (s.map Edit.isKeep).IsChain (· ≠ ·) := by
  induction h with
  | nil => exact .nil
  | @cons k _ _ _ _ e s _ hk hs ih =>
    refine List.isChain_cons.mpr ⟨fun b hb => ?_, ih⟩
    obtain ⟨next, hnext, rfl⟩ : ∃ next, next ∈ s.head? ∧ next.isKeep = b := by
      simpa [List.head?_map, Option.map_eq_some_iff] using hb
    rw [hs.isKeep_head next hnext, hk]
    cases k <;> decide

end InTurn

/-! ### What has been read -/

/-- What is pending leads from one point to another; equal lines are pending, or a change is. -/
inductive Pending.Holds (old new : Array Bytes) (i j : Nat) : Bool → Pending → Nat → Nat → Prop
  | kept {n : Nat} (hn : 0 < n) (h : Same old new i j n) :
    Holds old new i j true ⟨some (.keep i j n), .none, .none⟩ (i + n) (j + n)
  | deleted {n : Nat} (hn : 0 < n) (o : Nat) :
    Holds old new i j false ⟨.none, some (.delete i o n), .none⟩ (i + n) j
  | inserted {n : Nat} (hn : 0 < n) (o : Nat) :
    Holds old new i j false ⟨.none, .none, some (.insert o j n)⟩ i (j + n)
  | replaced {m n : Nat} (hm : 0 < m) (hn : 0 < n) (o o' : Nat) :
    Holds old new i j false ⟨.none, some (.delete i o m), some (.insert o' j n)⟩ (i + m) (j + n)

/-- **A script put together** leads where what is pending and the script lead. -/
theorem inTurn_combine {s : List Edit} {k : Bool} {p : Pending} {i j i₁ j₁ i' j' : Nat}
    (hp : p.Holds old new i j k i₁ j₁) (hs : Runs (Fits old new) i₁ j₁ s i' j') :
    InTurn old new k i j (combine p s) i' j' := by
  induction s generalizing k p i j i₁ j₁ with
  | nil =>
    obtain ⟨rfl, rfl⟩ := runs_nil.mp hs
    cases hp with
    | kept hn h => exact .keep hn h (.nil ..)
    | deleted hn o => exact .delete hn o (.nil ..)
    | inserted hn o => exact .insert hn o (.nil ..)
    | replaced hm hn o o' => exact .replace hm hn (.nil ..)
  | cons e s ih =>
    obtain ⟨he, hs⟩ := runs_cons.mp hs
    cases he with
    | @keep n hn h =>
      cases hp with
      | @kept m hm h' =>
        rw [Nat.add_assoc, Nat.add_assoc] at hs
        exact ih (.kept (Nat.add_pos_left hm n) (same_append.mpr ⟨h', h⟩)) hs
      | deleted hm o => exact .delete hm o (ih (.kept hn h) hs)
      | inserted hm o => exact .insert hm o (ih (.kept hn h) hs)
      | replaced hm hm' o o' => exact .replace hm hm' (ih (.kept hn h) hs)
    | @delete n hn o =>
      cases hp with
      | kept hm h => exact .keep hm h (ih (.deleted hn o) hs)
      | @deleted m hm o' =>
        rw [Nat.add_assoc] at hs
        exact ih (.deleted (Nat.add_pos_left hm n) o') hs
      | inserted hm o' => exact ih (.replaced hn hm o o') hs
      | @replaced m _ hm hm' o' o'' =>
        rw [Nat.add_assoc] at hs
        exact ih (.replaced (Nat.add_pos_left hm n) hm' o' o'') hs
    | @insert n hn o =>
      cases hp with
      | kept hm h => exact .keep hm h (ih (.inserted hn o) hs)
      | deleted hm o' => exact ih (.replaced hm hn o' o) hs
      | @inserted m hm o' =>
        rw [Nat.add_assoc] at hs
        exact ih (.inserted (Nat.add_pos_left hm n) o') hs
      | @replaced _ m hm hm' o' o'' =>
        rw [Nat.add_assoc j m] at hs
        exact ih (.replaced hm (Nat.add_pos_left hm' n) o' o'') hs

/-- The same when nothing is pending. -/
theorem exists_inTurn_combine {s : List Edit} {i j i' j' : Nat}
    (hs : Runs (Fits old new) i j s i' j') : ∃ k, InTurn old new k i j (combine .none s) i' j' := by
  cases hs with
  | nil => exact ⟨true, .nil ..⟩
  | cons he hs =>
    cases he with
    | keep hn h =>
      have hrest := inTurn_combine (.kept hn h) hs
      exact ⟨true, hrest⟩
    | delete hn o =>
      have hrest := inTurn_combine (.deleted hn o) hs
      exact ⟨false, hrest⟩
    | insert hn o =>
      have hrest := inTurn_combine (.inserted hn o) hs
      exact ⟨false, hrest⟩

/-- **The script that a diff shows** leads through both sides. -/
theorem inTurn_edits (old new : Array Bytes) :
    ∃ k, InTurn old new k 0 0 (edits old new) old.size new.size :=
  exists_inTurn_combine (becomes_compact _ _ _ _ _ (runs_script old new))

end Baseline.Diff
