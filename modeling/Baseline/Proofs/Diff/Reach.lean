import Baseline.Diff.Script

/-!
# How far edits reach

Two lists of lines make a board: a point `(x, y)` stands between the first `x` old lines and the
rest and between the first `y` new lines and the rest.  A step to the right deletes a line, a step
down inserts one, and a step along a diagonal keeps a line that is the same on both sides and costs
nothing.  `Steps same x y d x' y'` is a path of `d` edits from one point to another; it ends on
another diagonal `x - y` only by its edits (`Steps.diagonal`).

A search keeps one number for each diagonal.  `Furthest d g` is what these numbers mean after
`d` edits: `g k` can be reached on the diagonal `k` (`Reaches`), and no path of `d` edits inside
the board gets further there.  One more edit keeps it so (`Row.furthest`).

Two searches from opposite corners with as many edits, or one apart, have to meet when there is
a path of all those edits together (`meet_of_odd`, `meet_of_even`).  So while they have not met
every path has more edits, and that is why they meet on the board: a search that has left it has
spent too many edits outside (`on_board`).
-/

namespace Baseline.Diff

variable {same : Nat → Nat → Prop}

/-! ### Paths -/

/-- A path of `d` edits from a point; a diagonal step keeps a line. -/
inductive Steps (same : Nat → Nat → Prop) (x y : Nat) : Nat → Nat → Nat → Prop
  | refl : Steps same x y 0 x y
  | right {d x' y' : Nat} (h : Steps same x y d x' y') : Steps same x y (d + 1) (x' + 1) y'
  | down {d x' y' : Nat} (h : Steps same x y d x' y') : Steps same x y (d + 1) x' (y' + 1)
  | keep {d x' y' : Nat} (h : Steps same x y d x' y') (hs : same x' y') :
    Steps same x y d (x' + 1) (y' + 1)

namespace Steps

variable {d e x y x' y' x'' y'' : Nat}

theorem trans (h : Steps same x y d x' y') (h' : Steps same x' y' e x'' y'') :
    Steps same x y (d + e) x'' y'' := by
  induction h' with
  | refl => exact h
  | right _ ih => exact ih.right
  | down _ ih => exact ih.down
  | keep _ hs ih => exact ih.keep hs

theorem le (h : Steps same x y d x' y') : x ≤ x' ∧ y ≤ y' := by
  induction h with
  | refl => exact ⟨Nat.le_refl _, Nat.le_refl _⟩
  | right _ ih => exact ⟨by omega, ih.2⟩
  | down _ ih => exact ⟨ih.1, by omega⟩
  | keep _ _ ih => exact ⟨by omega, by omega⟩

/-- **Only an edit moves to another diagonal**, by one. -/
theorem diagonal (h : Steps same x y d x' y') :
    ∃ r u : Nat, r + u = d ∧ (x' : Int) - y' = x - y + r - u := by
  induction h with
  | refl => exact ⟨0, 0, rfl, by omega⟩
  | right _ ih =>
    obtain ⟨r, u, hd, hk⟩ := ih
    exact ⟨r + 1, u, by omega, by omega⟩
  | down _ ih =>
    obtain ⟨r, u, hd, hk⟩ := ih
    exact ⟨r, u + 1, by omega, by omega⟩
  | keep _ _ ih =>
    obtain ⟨r, u, hd, hk⟩ := ih
    exact ⟨r, u, hd, by omega⟩

theorem rights (n : Nat) : Steps same x y n (x + n) y := by
  induction n with
  | zero => exact .refl
  | succ n ih => exact ih.right

theorem downs (n : Nat) : Steps same x y n x (y + n) := by
  induction n with
  | zero => exact .refl
  | succ n ih => exact ih.down

/-- A path cut after some of its edits. -/
theorem split {n : Nat} (h : Steps same x y n x'' y'') (hn : d ≤ n) :
    ∃ x' y', Steps same x y d x' y' ∧ Steps same x' y' (n - d) x'' y'' := by
  induction h with
  | refl =>
    obtain rfl : d = 0 := by omega
    exact ⟨x, y, .refl, .refl⟩
  | @right n x'' y'' h ih =>
    by_cases hd : d = n + 1
    · subst hd
      exact ⟨_, _, h.right, by rw [Nat.sub_self]; exact .refl⟩
    · obtain ⟨x', y', hbefore, hafter⟩ := ih (by omega)
      exact ⟨x', y', hbefore, by rw [Nat.succ_sub (by omega)]; exact hafter.right⟩
  | @down n x'' y'' h ih =>
    by_cases hd : d = n + 1
    · subst hd
      exact ⟨_, _, h.down, by rw [Nat.sub_self]; exact .refl⟩
    · obtain ⟨x', y', hbefore, hafter⟩ := ih (by omega)
      exact ⟨x', y', hbefore, by rw [Nat.succ_sub (by omega)]; exact hafter.down⟩
  | keep h hs ih =>
    obtain ⟨x', y', hbefore, hafter⟩ := ih hn
    exact ⟨x', y', hbefore, hafter.keep hs⟩

/-- A path asks only about the lines before its end. -/
theorem congr {same' : Nat → Nat → Prop} (h : Steps same x y d x' y')
    (heq : ∀ u < x', ∀ v < y', same u v → same' u v) : Steps same' x y d x' y' := by
  induction h with
  | refl => exact .refl
  | right _ ih => exact (ih fun u hu v hv => heq u (by omega) v hv).right
  | down _ ih => exact (ih fun u hu v hv => heq u hu v (by omega)).down
  | keep _ hs ih =>
    exact (ih fun u hu v hv => heq u (by omega) v (by omega)).keep
      (heq _ (Nat.lt_succ_self _) _ (Nat.lt_succ_self _) hs)

/-- A path on a board of `N` old and `M` new lines, walked back and seen from the far corner. -/
theorem reverse {N M : Nat} (h : Steps same x y d x' y') (hx : x' ≤ N) (hy : y' ≤ M) :
    Steps (fun u v => same (N - 1 - u) (M - 1 - v)) (N - x') (M - y') d (N - x) (M - y) := by
  induction h with
  | refl => exact .refl
  | @right d x' y' _ ih =>
    have hstep := (@refl (fun u v => same (N - 1 - u) (M - 1 - v)) (N - (x' + 1)) (M - y')).right
    rw [show N - (x' + 1) + 1 = N - x' by omega] at hstep
    have hall := hstep.trans (ih (by omega) hy)
    rwa [Nat.zero_add, Nat.add_comm 1 d] at hall
  | @down d x' y' _ ih =>
    have hstep := (@refl (fun u v => same (N - 1 - u) (M - 1 - v)) (N - x') (M - (y' + 1))).down
    rw [show M - (y' + 1) + 1 = M - y' by omega] at hstep
    have hall := hstep.trans (ih hx (by omega))
    rwa [Nat.zero_add, Nat.add_comm 1 d] at hall
  | @keep d x' y' _ hs ih =>
    have hback : same (N - 1 - (N - (x' + 1))) (M - 1 - (M - (y' + 1))) := by
      rw [show N - 1 - (N - (x' + 1)) = x' by omega, show M - 1 - (M - (y' + 1)) = y' by omega]
      exact hs
    have hstep :=
      (@refl (fun u v => same (N - 1 - u) (M - 1 - v)) (N - (x' + 1)) (M - (y' + 1))).keep hback
    rw [show N - (x' + 1) + 1 = N - x' by omega, show M - (y' + 1) + 1 = M - y' by omega] at hstep
    have hall := hstep.trans (ih (by omega) (by omega))
    rwa [Nat.zero_add] at hall

end Steps

/-- A path across the board seen from the far corner is one seen from the near corner. -/
theorem Steps.across {N M n : Nat}
    (h : Steps (fun u v => same (N - 1 - u) (M - 1 - v)) 0 0 n N M) : Steps same 0 0 n N M := by
  have hback := h.reverse (Nat.le_refl N) (Nat.le_refl M)
  rw [Nat.sub_self, Nat.sub_self, Nat.sub_zero, Nat.sub_zero] at hback
  refine hback.congr fun u hu v hv hs => ?_
  rwa [show N - 1 - (N - 1 - u) = u by omega, show M - 1 - (M - 1 - v) = v by omega] at hs

/-! ### One search -/

variable {N M : Nat}

/-- A point that `d` edits reach when a path that has come to the edge of the board may go on
outside of it, where it keeps nothing. -/
def Reaches (same : Nat → Nat → Prop) (N M d x y : Nat) : Prop :=
  ∃ e, Steps same 0 0 e (min x N) (min y M) ∧ e + (x - N) + (y - M) ≤ d

namespace Reaches

variable {d x y : Nat}

theorem right (h : Reaches same N M d x y) : Reaches same N M (d + 1) (x + 1) y := by
  obtain ⟨e, hsteps, hd⟩ := h
  by_cases hx : x < N
  · refine ⟨e + 1, ?_, by omega⟩
    rw [Nat.min_eq_left hx]
    rw [Nat.min_eq_left (Nat.le_of_lt hx)] at hsteps
    exact hsteps.right
  · refine ⟨e, ?_, by omega⟩
    rw [Nat.min_eq_right (by omega)]
    rwa [Nat.min_eq_right (by omega)] at hsteps

theorem down (h : Reaches same N M d x y) : Reaches same N M (d + 1) x (y + 1) := by
  obtain ⟨e, hsteps, hd⟩ := h
  by_cases hy : y < M
  · refine ⟨e + 1, ?_, by omega⟩
    rw [Nat.min_eq_left hy]
    rw [Nat.min_eq_left (Nat.le_of_lt hy)] at hsteps
    exact hsteps.down
  · refine ⟨e, ?_, by omega⟩
    rw [Nat.min_eq_right (a := y + 1) (by omega)]
    rwa [Nat.min_eq_right (a := y) (by omega)] at hsteps

theorem keep (h : Reaches same N M d x y) (hx : x < N) (hy : y < M) (hs : same x y) :
    Reaches same N M d (x + 1) (y + 1) := by
  obtain ⟨e, hsteps, hd⟩ := h
  refine ⟨e, ?_, by omega⟩
  rw [Nat.min_eq_left hx, Nat.min_eq_left hy]
  rw [Nat.min_eq_left (Nat.le_of_lt hx), Nat.min_eq_left (Nat.le_of_lt hy)] at hsteps
  exact hsteps.keep hs

/-- **From a point to the far corner** it takes no more edits than there are lines left, and a
point outside the board counts less than none. -/
theorem total (h : Reaches same N M d x y) :
    ∃ n, Steps same 0 0 n N M ∧ n + x + y ≤ d + N + M := by
  obtain ⟨e, hsteps, hd⟩ := h
  refine ⟨e + (N - min x N) + (M - min y M), ?_, by omega⟩
  have hright := hsteps.trans (.rights (N - min x N))
  have hdown := hright.trans (.downs (M - min y M))
  rwa [Nat.add_sub_cancel' (Nat.min_le_right x N), Nat.add_sub_cancel' (Nat.min_le_right y M)]
    at hdown

end Reaches

/-- The diagonals that `d` edits can end on. -/
def OnRow (d : Nat) (k : Int) : Prop := ∃ r u : Nat, r + u = d ∧ k = r - u

theorem Steps.onRow {d x y : Nat} (h : Steps same 0 0 d x y) : OnRow d ((x : Int) - y) := by
  obtain ⟨r, u, hd, hk⟩ := h.diagonal
  exact ⟨r, u, hd, by omega⟩

/-- How far equal lines go on from a point: as far as the board, or to lines that differ. -/
structure Measures (same : Nat → Nat → Prop) (N M : Nat) (run : Nat → Nat → Nat) : Prop where
  ahead : ∀ x y i, i < run x y → x + i < N ∧ y + i < M ∧ same (x + i) (y + i)
  stops : ∀ x y, x + run x y < N → y + run x y < M → ¬ same (x + run x y) (y + run x y)

/-- What the numbers of a search mean after `d` edits. -/
structure Furthest (same : Nat → Nat → Prop) (N M d : Nat) (g : Int → Nat) : Prop where
  reaches : ∀ k, OnRow d k → k ≤ g k ∧ Reaches same N M d (g k) (g k - k).toNat
  furthest : ∀ x y, Steps same 0 0 d x y → x ≤ N → y ≤ M → x ≤ g (x - y)

/-- The numbers that a search of `d` edits starts from. -/
inductive Row (same : Nat → Nat → Prop) (N M : Nat) : Nat → (Int → Nat) → Prop
  | first {g : Int → Nat} (h : g 1 = 0) : Row same N M 0 g
  | next {d : Nat} {g : Int → Nat} (h : Furthest same N M d g) : Row same N M (d + 1) g

/-- Where a search enters a diagonal with its next edit: from the neighbour that is further. -/
def enter (g : Int → Nat) (d : Nat) (k : Int) : Nat :=
  if k = -d ∨ (k ≠ d ∧ g (k - 1) < g (k + 1)) then g (k + 1) else g (k - 1) + 1

namespace Row

variable {d : Nat} {g : Int → Nat}

/-- What a search enters can be reached. -/
theorem reaches_enter (h : Row same N M d g) {k : Int} (hk : OnRow d k) :
    k ≤ enter g d k ∧ Reaches same N M d (enter g d k) (enter g d k - k).toNat := by
  obtain ⟨r, u, hd, hk⟩ := hk
  cases h with
  | first h =>
    obtain rfl : k = 0 := by omega
    have henter : enter g 0 0 = 0 := (if_pos (Or.inl rfl)).trans h
    rw [henter]
    exact ⟨Int.le_refl 0, 0, by simpa using .refl, by simp⟩
  | @next d _ h =>
    rw [enter]
    split
    · rename_i hcond
      have hu : u ≠ 0 := by
        rintro rfl
        rcases hcond with hc | hc <;> omega
      obtain ⟨hle, hreach⟩ := h.reaches (k + 1) ⟨r, u - 1, by omega, by omega⟩
      refine ⟨by omega, ?_⟩
      have hdown := hreach.down
      rwa [show ((g (k + 1) : Int) - (k + 1)).toNat + 1 = (g (k + 1) - k).toNat by omega]
        at hdown
    · rename_i hcond
      have hr : r ≠ 0 := by
        rintro rfl
        exact hcond (Or.inl (by omega))
      obtain ⟨hle, hreach⟩ := h.reaches (k - 1) ⟨r - 1, u, by omega, by omega⟩
      refine ⟨by omega, ?_⟩
      have hright := hreach.right
      rwa [show ((g (k - 1) : Int) - (k - 1)).toNat = (((g (k - 1) + 1 : Nat) : Int) - k).toNat by
        omega] at hright

/-- No path gets past where a search enters, but by lines that are kept. -/
theorem le_enter (h : Furthest same N M d g) {x y : Nat} (hs : Steps same 0 0 d x y) (hx : x ≤ N)
    (hy : y ≤ M) :
    x + 1 ≤ enter g (d + 1) ((x : Int) + 1 - y) ∧ x ≤ enter g (d + 1) ((x : Int) - (y + 1)) := by
  have hle := h.furthest x y hs hx hy
  obtain ⟨r, u, hd, hk⟩ := hs.onRow
  constructor
  · rw [enter, show (x : Int) + 1 - y - 1 = x - y by omega]
    split
    · rename_i hcond
      rcases hcond with hc | ⟨-, hc⟩ <;> omega
    · omega
  · rw [enter, show (x : Int) - (y + 1) + 1 = x - y by omega]
    split
    · exact hle
    · rename_i hcond
      have hne : (x : Int) - (y + 1) ≠ (d + 1 : Nat) := by omega
      have hnot : ¬ g ((x : Int) - (y + 1) - 1) < g (x - y) := fun hlt => hcond (Or.inr ⟨hne, hlt⟩)
      omega

variable {run : Nat → Nat → Nat} {g' : Int → Nat}

/-- What a search comes to on a diagonal can be reached. -/
theorem reaches_run (h : Row same N M d g) (hrun : Measures same N M run) {k : Int}
    (hk : OnRow d k) :
    Reaches same N M d (enter g d k + run (enter g d k) (enter g d k - k).toNat)
      ((enter g d k - k).toNat + run (enter g d k) (enter g d k - k).toNat) := by
  have hall : ∀ i ≤ run (enter g d k) (enter g d k - k).toNat,
      Reaches same N M d (enter g d k + i) ((enter g d k - k).toNat + i) := by
    intro i
    induction i with
    | zero => exact fun _ => (h.reaches_enter hk).2
    | succ i ih =>
      intro hi
      obtain ⟨hx, hy, hs⟩ := hrun.ahead _ _ i hi
      exact (ih (Nat.le_of_succ_le hi)).keep hx hy hs
  exact hall _ (Nat.le_refl _)

/-- **One more edit** and as many equal lines as there are. -/
theorem furthest (h : Row same N M d g) (hrun : Measures same N M run)
    (hg : ∀ k, OnRow d k →
      g' k = enter g d k + run (enter g d k) (enter g d k - k).toNat) :
    Furthest same N M d g' := by
  refine ⟨fun k hk => ?_, fun x y hs => ?_⟩
  · have hle := (h.reaches_enter hk).1
    have hreach := h.reaches_run hrun hk
    rw [hg k hk]
    refine ⟨by omega, ?_⟩
    rwa [show (((enter g d k + run (enter g d k) (enter g d k - k).toNat : Nat) : Int) - k).toNat =
      (enter g d k - k).toNat + run (enter g d k) (enter g d k - k).toNat by omega]
  · induction hs with
    | refl => exact fun _ _ => Nat.zero_le _
    | @right e x y hsteps _ =>
      intro hx hy
      cases h with
      | next h =>
        have henter := (le_enter h hsteps (by omega) hy).1
        have hvalue := hg _ hsteps.right.onRow
        rw [show ((x + 1 : Nat) : Int) - y = (x : Int) + 1 - y by omega] at hvalue ⊢
        omega
    | @down e x y hsteps _ =>
      intro hx hy
      cases h with
      | next h =>
        have henter := (le_enter h hsteps hx (by omega)).2
        have hvalue := hg _ hsteps.down.onRow
        rw [show (x : Int) - (y + 1 : Nat) = (x : Int) - (y + 1) by omega] at hvalue ⊢
        omega
    | @keep e x y hsteps hs ih =>
      intro hx hy
      -- the search does not stop at a line that is kept
      have hle := ih h hg (by omega) (by omega)
      have hvalue := hg _ hsteps.onRow
      have hk := (h.reaches_enter hsteps.onRow).1
      rw [show ((x + 1 : Nat) : Int) - (y + 1 : Nat) = x - y by omega]
      refine Nat.le_of_not_lt fun hlt => ?_
      have hx' : enter g e (x - y) +
          run (enter g e (x - y)) (enter g e (x - y) - (x - y : Int)).toNat = x := by omega
      have hy' : (enter g e (x - y) - (x - y : Int)).toNat +
          run (enter g e (x - y)) (enter g e (x - y) - (x - y : Int)).toNat = y := by omega
      have hstop := hrun.stops (enter g e (x - y)) (enter g e (x - y) - (x - y : Int)).toNat
      rw [hx', hy'] at hstop
      exact hstop (by omega) (by omega) hs

end Row

/-! ### Two searches -/

section

variable {d n : Nat} {g b : Int → Nat}

/-- **Two searches meet** on a path of as many edits as both have made, when the one from the
start has made one more. -/
theorem meet_of_odd (hg : Furthest same N M (d + 1) g)
    (hb : Furthest (fun u v => same (N - 1 - u) (M - 1 - v)) N M d b)
    (h : Steps same 0 0 (d + 1 + d) N M) : ∃ k : Int, OnRow (d + 1) k ∧
      (k - ((N : Int) - M)).natAbs ≤ d ∧ N ≤ g k + b ((N : Int) - M - k) := by
  obtain ⟨x, y, hbefore, hafter⟩ := h.split (d := d + 1) (by omega)
  rw [Nat.add_sub_cancel_left] at hafter
  obtain ⟨hx, hy⟩ := hafter.le
  have hback := hafter.reverse (Nat.le_refl N) (Nat.le_refl M)
  rw [Nat.sub_self, Nat.sub_self] at hback
  have hfront := hg.furthest x y hbefore hx hy
  have hrest := hb.furthest _ _ hback (by omega) (by omega)
  obtain ⟨r, u, hd, hk⟩ := hback.onRow
  refine ⟨x - y, hbefore.onRow, by omega, ?_⟩
  rw [show ((N - x : Nat) : Int) - (M - y : Nat) = (N : Int) - M - (x - y) by omega] at hrest
  omega

/-- The same when both have made as many, seen from the far corner. -/
theorem meet_of_even (hg : Furthest same N M d g)
    (hb : Furthest (fun u v => same (N - 1 - u) (M - 1 - v)) N M d b)
    (h : Steps same 0 0 (d + d) N M) : ∃ k : Int, OnRow d k ∧
      (k - ((N : Int) - M)).natAbs ≤ d ∧ N ≤ b k + g ((N : Int) - M - k) := by
  obtain ⟨x, y, hbefore, hafter⟩ := h.split (d := d) (by omega)
  rw [Nat.add_sub_cancel_left] at hafter
  obtain ⟨hx, hy⟩ := hafter.le
  have hback := hafter.reverse (Nat.le_refl N) (Nat.le_refl M)
  rw [Nat.sub_self, Nat.sub_self] at hback
  have hfront := hg.furthest x y hbefore hx hy
  have hrest := hb.furthest _ _ hback (by omega) (by omega)
  obtain ⟨r, u, hd, hk⟩ := hbefore.onRow
  refine ⟨_, hback.onRow, by omega, ?_⟩
  rw [show (N : Int) - M - (((N - x : Nat) : Int) - (M - y : Nat)) = x - y by omega]
  omega

/-- **Searches meet on the board**: outside it one of them would have spent so many edits that there
is a path with fewer than they have made together. -/
theorem on_board {x y : Nat} (h : Reaches same N M d x y)
    (hmeet : (((x : Int) - y) - ((N : Int) - M)).natAbs ≤ n)
    (hall : ∀ m, Steps same 0 0 m N M → d + n ≤ m) : x ≤ N ∧ y ≤ M := by
  obtain ⟨m, hpath, htotal⟩ := h.total
  have hm := hall m hpath
  omega

end

/-- Whether a path has an even or an odd number of edits is fixed by its ends. -/
theorem Steps.parity {n : Nat} (h : Steps same 0 0 n N M) : ((N : Int) - M - n) % 2 = 0 := by
  obtain ⟨r, u, hd, hk⟩ := h.diagonal
  omega

end Baseline.Diff
