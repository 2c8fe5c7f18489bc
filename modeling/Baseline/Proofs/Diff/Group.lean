import Baseline.Proofs.Diff.Combine

/-!
# The groups of a script

The groups of a script are what is left of it when equal lines are left out: at both its ends and
between its groups (`Parted`).  A group still leads from one point to another, equal lines and
changes in it take turns, and it has equal lines at its start, unless this is the first line of
both sides, and at its end, unless this is the last (`Framed`).  A script has these properties as a
whole (`framed_edits`); equal lines cut from its ends (`Framed.exists_trimFirst`,
`Framed.exists_trimLast`) and a cut inside of them (`Framed.cut`) keep them, so `parted_groups`
follows one edit after the other.
-/

namespace Baseline.Diff

variable {old new : Array Bytes}

/-- Which edits of a script keep lines. -/
def kinds (s : List Edit) : List Bool := s.map Edit.isKeep

/-- A part of a script with equal lines at both its ends, or all there is on that side. -/
structure Framed (old new : Array Bytes) (i j : Nat) (s : List Edit) (i' j' : Nat) : Prop where
  runs : Runs (Shows old new) i j s i' j'
  turns : (kinds s).IsChain (· ≠ ·)
  first : (kinds s).head? = some false → i = 0 ∧ j = 0
  last : (kinds s).getLast? = some false → i' = old.size ∧ j' = new.size

/-- Groups with equal lines before, between and after them, from `i` and `j` to the ends of both
sides. -/
inductive Parted (old new : Array Bytes) : Nat → Nat → List (List Edit) → Prop
  | rest {i j n : Nat} (h : Same old new i j n) (hold : i + n = old.size)
    (hnew : j + n = new.size) :
    Parted old new i j []
  | group {i j i' j' n : Nat} {g : List Edit} {gs : List (List Edit)} (h : Same old new i j n)
    (hne : g ≠ []) (hg : Framed old new (i + n) (j + n) g i' j') (hgs : Parted old new i' j' gs) :
    Parted old new i j (g :: gs)

section

variable {i j i' j' n : Nat} {e : Edit} {s u : List Edit} {gs : List (List Edit)}

theorem Parted.after (h : Same old new i j n) (hgs : Parted old new (i + n) (j + n) gs) :
    Parted old new i j gs := by
  cases hgs with
  | rest h' hold hnew =>
    exact .rest (same_append.mpr ⟨h, h'⟩) (by omega) (by omega)
  | group h' hne hg hgs =>
    rw [Nat.add_assoc, Nat.add_assoc] at hg
    exact .group (same_append.mpr ⟨h, h'⟩) hne hg hgs

/-- An edit that shows equal lines keeps them. -/
theorem Shows.exists_keep (h : Shows old new i j e) (he : e.isKeep = true) :
    ∃ m, 0 < m ∧ Same old new i j m ∧ e = .keep i j m := by
  cases h with
  | replace => cases he
  | fits h =>
    cases h with
    | keep hm hsame => exact ⟨_, hm, hsame, rfl⟩
    | delete | insert => cases he

/-! ### Cutting equal lines -/

/-- A script that is cut inside equal lines. -/
theorem runs_cut {x y p q : Nat}
    (h : Runs (Shows old new) i j (s ++ .keep x y (p + q) :: u) i' j') :
    Runs (Shows old new) i j s x y ∧ Same old new x y p ∧ Same old new (x + p) (y + p) q ∧
      Runs (Shows old new) (x + p + q) (y + p + q) u i' j' := by
  obtain ⟨i₁, j₁, hs, h⟩ := runs_append.mp h
  obtain ⟨hshows, hu⟩ := runs_cons.mp h
  obtain ⟨m, hm, hsame, heq⟩ := hshows.exists_keep rfl
  obtain ⟨rfl, rfl, rfl⟩ : x = i₁ ∧ y = j₁ ∧ p + q = m := by simpa [Edit.keep] using heq
  obtain ⟨hp, hq⟩ := same_append.mp hsame
  rw [Nat.add_assoc, Nat.add_assoc]
  exact ⟨hs, hp, hq, hu⟩

/-- Only the last edit of a script is cut. -/
theorem trimLast_append (n : Nat) (s : List Edit) (e : Edit) :
    trimLast n (s ++ [e]) =
      s ++ if e.isKeep then [e.shorten (e.oldLength - n)] else [e] := by
  induction s with
  | nil => rfl
  | cons first s ih =>
    cases s with
    | nil => exact congrArg (first :: ·) ih
    | cons next s => exact congrArg (first :: ·) ih

namespace Framed

variable {x y p q : Nat}

/-- What is in front of a cut, with some of the equal lines. -/
theorem before_cut (h : Framed old new i j (s ++ .keep x y (p + q) :: u) i' j') (hp : 0 < p) :
    Framed old new i j (s ++ [.keep x y p]) (x + p) (y + p) := by
  obtain ⟨hs, hsame, -, -⟩ := runs_cut h.runs
  have hkinds : kinds (s ++ .keep x y (p + q) :: u) = kinds (s ++ [.keep x y p]) ++ kinds u := by
    simp [kinds, Edit.isKeep, Edit.keep]
  have hturns := h.turns
  rw [hkinds] at hturns
  refine ⟨hs.append (.cons (.fits (.keep hp hsame)) (.nil _ _)), hturns.left_of_append,
    fun hfirst => h.first ?_, fun hlast => ?_⟩
  · rw [hkinds, List.head?_append, hfirst]
    rfl
  · simp [kinds, Edit.isKeep, Edit.keep] at hlast

/-- What is behind a cut, with the rest of the equal lines. -/
theorem after_cut (h : Framed old new i j (s ++ .keep x y (p + q) :: u) i' j') (hq : 0 < q) :
    Framed old new (x + p) (y + p) (.keep (x + p) (y + p) q :: u) i' j' := by
  obtain ⟨-, -, hsame, hu⟩ := runs_cut h.runs
  have hkinds : kinds (s ++ .keep x y (p + q) :: u) =
      kinds s ++ kinds (.keep (x + p) (y + p) q :: u) := by
    simp [kinds, Edit.isKeep, Edit.keep]
  have hturns := h.turns
  rw [hkinds] at hturns
  refine ⟨.cons (.fits (.keep hq hsame)) hu, hturns.right_of_append, fun hfirst => ?_,
    fun hlast => h.last ?_⟩
  · simp [kinds, Edit.isKeep, Edit.keep] at hfirst
  · rw [hkinds, List.getLast?_append, hlast]
    rfl

/-- **A script without the equal lines in front of it**, but for the last `n`. -/
theorem exists_trimFirst (hn : 0 < n) (h : Framed old new i j s i' j') :
    ∃ m, Same old new i j m ∧ Framed old new (i + m) (j + m) (trimFirst n s) i' j' := by
  cases s with
  | nil => exact ⟨0, same_zero i j, h⟩
  | cons e s =>
    rw [trimFirst]
    split
    · rename_i he
      obtain ⟨hshows, -⟩ := runs_cons.mp h.runs
      obtain ⟨m, hm, hsame, rfl⟩ := hshows.exists_keep he
      rw [show m = m - n + (m - (m - n)) by omega] at h hsame
      have hafter := after_cut (s := []) h (by omega)
      exact ⟨m - n, (same_append.mp hsame).1, hafter⟩
    · exact ⟨0, same_zero i j, h⟩

/-- **A script without the equal lines behind it**, but for the first `n`. -/
theorem exists_trimLast (hn : 0 < n) (h : Framed old new i j s i' j') :
    ∃ x y m, Same old new x y m ∧ x + m = i' ∧ y + m = j' ∧
      Framed old new i j (trimLast n s) x y := by
  rcases List.eq_nil_or_concat s with rfl | ⟨s, e, rfl⟩
  · exact ⟨i', j', 0, same_zero _ _, rfl, rfl, h⟩
  · rw [List.concat_eq_append] at h ⊢
    rw [trimLast_append]
    split
    · rename_i he
      obtain ⟨x, y, hs, hlast⟩ := runs_append.mp h.runs
      obtain ⟨hshows, hnil⟩ := runs_cons.mp hlast
      obtain ⟨m, hm, hsame, rfl⟩ := hshows.exists_keep he
      obtain ⟨rfl, rfl⟩ := runs_nil.mp hnil
      have hcut : m = m - (m - n) + (m - n) := by omega
      change Framed old new i j (s ++ [.keep x y m]) (x + m) (y + m) at h
      rw [hcut] at h hsame
      have hbefore := before_cut h (by omega)
      exact ⟨_, _, m - n, (same_append.mp hsame).2, by rw [Nat.add_assoc, ← hcut]; rfl,
        by rw [Nat.add_assoc, ← hcut]; rfl, hbefore⟩
    · exact ⟨i', j', 0, same_zero _ _, rfl, rfl, h⟩

end Framed

/-! ### The groups -/

/-- The last group is left out when it is one that only keeps lines. -/
theorem parted_lastGroup {group : List Edit} (h : Framed old new i j group.reverse i' j')
    (hrest : Parted old new i' j' []) : Parted old new i j (splitGroups n group []) := by
  match group with
  | [] =>
    obtain ⟨rfl, rfl⟩ := runs_nil.mp h.runs
    exact hrest
  | [e] =>
    rw [splitGroups]
    split
    · rename_i he
      obtain ⟨hshows, hnil⟩ := runs_cons.mp h.runs
      obtain ⟨k, hk, hsame, rfl⟩ := hshows.exists_keep he
      obtain ⟨rfl, rfl⟩ := runs_nil.mp hnil
      exact hrest.after hsame
    · exact .group (same_zero i j) (List.cons_ne_nil _ _) h hrest
  | e :: next :: group =>
    exact .group (same_zero i j) (by simp) h hrest

/-- **The groups of a script** with equal lines behind it. -/
theorem parted_splitGroups (hn : 0 < n) {group rest : List Edit} {m : Nat}
    (h : Framed old new i j (group.reverse ++ rest) i' j') (hsame : Same old new i' j' m)
    (hold : i' + m = old.size) (hnew : j' + m = new.size) :
    Parted old new i j (splitGroups n group rest) := by
  induction rest generalizing group i j with
  | nil =>
    rw [List.append_nil] at h
    exact parted_lastGroup h (.rest hsame hold hnew)
  | cons e rest ih =>
    rw [splitGroups]
    split
    · rename_i hcut
      obtain ⟨x, y, hs, hruns⟩ := runs_append.mp h.runs
      obtain ⟨hshows, -⟩ := runs_cons.mp hruns
      obtain ⟨k, hk, hlines, rfl⟩ := hshows.exists_keep hcut.1
      obtain ⟨gap, rfl⟩ : ∃ gap, k = n + gap + n :=
        ⟨k - 2 * n, by have hlong : 2 * n < k := hcut.2; omega⟩
      have hend : n + gap + n - n = n + gap := by omega
      have hstart : n + gap + n - (n + gap) = n := by omega
      obtain ⟨hfirst, -⟩ := same_append.mp hlines
      obtain ⟨-, hgap⟩ := same_append.mp hfirst
      have hafter := h.after_cut hn
      rw [Nat.add_assoc n gap n] at h
      have hbefore := h.before_cut hn
      change Parted old new i j
        ((Edit.keep x y (n + gap + n - (n + gap + n - n)) :: group).reverse ::
        splitGroups n [.keep (x + (n + gap + n - n)) (y + (n + gap + n - n))
          (n + gap + n - (n + gap + n - n))] rest)
      rw [hend, hstart, List.reverse_cons]
      refine .group (same_zero i j) (by simp) hbefore (.after hgap ?_)
      rw [Nat.add_assoc, Nat.add_assoc]
      exact ih hafter
    · exact ih (by rwa [List.reverse_cons, List.append_assoc])

/-- The whole script has nothing around it. -/
theorem framed_edits (old new : Array Bytes) :
    Framed old new 0 0 (edits old new) old.size new.size := by
  obtain ⟨k, h⟩ := inTurn_edits old new
  exact ⟨h.runs, h.isChain, fun _ => ⟨rfl, rfl⟩, fun _ => ⟨rfl, rfl⟩⟩

/-- **The groups of the script that a diff shows.** -/
theorem parted_groups (hn : 0 < n) (old new : Array Bytes) :
    Parted old new 0 0 (groups n (edits old new)) := by
  obtain ⟨m, hfirst, hframed⟩ := (framed_edits old new).exists_trimFirst hn
  obtain ⟨x, y, m', hlast, hold, hnew, hframed⟩ := hframed.exists_trimLast hn
  exact .after hfirst (parted_splitGroups hn hframed hlast hold hnew)

end

end Baseline.Diff
