import Baseline.Proofs.Diff.Reach
import Baseline.Proofs.Diff.Script

/-!
# The search for a middle

The two searches of `middle` make one round after the other.  A round goes through the diagonals
and gives each its new number (`sweep`); it reads the numbers of the neighbours, which
belong to the round before, so the order does not matter (`sweep_eq_none`).  What the
numbers mean is kept by every round (`Searching`, `searching_next`), and when the searches meet
it is inside the box that is divided (`middle_in_box`).
-/

namespace Baseline.Diff

variable {old new : Array Bytes} {b : Box}

/-! ### Frontiers -/

namespace Frontier

/-- Every diagonal from `-offset` to `offset` has its number. -/
def Whole (f : Frontier) : Prop := f.reached.size = 2 * f.offset + 1

variable {f : Frontier} {k l : Int}

theorem whole_start (offset : Nat) : (start offset).Whole := by simp [Whole, start]

theorem at_start (offset : Nat) (k : Int) : (start offset).at_ k = 0 := by
  rw [at_, start, Array.getD_eq_getD_getElem?, Array.getElem?_replicate]
  split <;> rfl

theorem Whole.set (hf : f.Whole) (x : Nat) : (f.set k x).Whole := by
  simpa [Whole, Frontier.set] using hf

theorem offset_set (f : Frontier) (k : Int) (x : Nat) : (f.set k x).offset = f.offset := rfl

/-- One number is replaced, and no other one. -/
theorem at_set (hf : f.Whole) (hk : k.natAbs ≤ f.offset) (hl : l.natAbs ≤ f.offset) (x : Nat) :
    (f.set k x).at_ l = if l = k then x else f.at_ l := by
  have hsize : (k + f.offset).toNat < f.reached.size := by rw [hf]; omega
  rw [at_, at_, Frontier.set, Array.getD_eq_getD_getElem?, Array.getD_eq_getD_getElem?]
  dsimp only
  rw [Array.getElem?_setIfInBounds]
  by_cases hlk : l = k
  · rw [if_pos (by rw [hlk]), if_pos hsize, if_pos hlk]
    rfl
  · rw [if_neg (by omega), if_neg hlk]

theorem enter_eq (f : Frontier) (d : Nat) (k : Int) : f.enter d k = Diff.enter f.at_ d k := rfl

/-- The numbers of one round are entered from those of the round before. -/
theorem enter_set {d : Nat} (hf : f.Whole) (hd : d < f.offset) (hk : OnRow d k) (hl : OnRow d l)
    (x : Nat) : (f.set k x).enter d l = f.enter d l := by
  obtain ⟨r, u, hru, hkd⟩ := hk
  obtain ⟨r', u', hru', hld⟩ := hl
  have hup := at_set hf (k := k) (l := l + 1) (by omega) (by omega) x
  have hdown := at_set hf (k := k) (l := l - 1) (by omega) (by omega) x
  rw [if_neg (by omega)] at hup hdown
  rw [enter, enter, hup, hdown]

end Frontier

/-! ### Rounds -/

theorem mem_diagonals {d : Nat} {k : Int} : k ∈ diagonals d ↔ OnRow d k := by
  simp only [diagonals, List.mem_map, List.mem_range, OnRow]
  constructor
  · rintro ⟨u, hu, rfl⟩
    exact ⟨d - u, u, by omega, by omega⟩
  · rintro ⟨r, u, hd, rfl⟩
    exact ⟨u, by omega, by omega⟩

theorem nodup_diagonals (d : Nat) : (diagonals d).Nodup := by
  refine List.Pairwise.map _ (fun i j hij => ?_) List.nodup_range
  omega

/-- How far equal lines go on from `x` on the diagonal `k`. -/
def runOn (run : Nat → Nat → Nat) (k : Int) (x : Nat) : Nat :=
  if k ≤ x then run x (x - k).toNat else 0

/-- Equal lines go on only on the board. -/
theorem runOn_on_board (run : Nat → Nat → Nat) (w h : Nat) (k : Int) (x : Nat) :
    (if x < w ∧ 0 ≤ (x : Int) - k ∧ (x : Int) - k < h then run x ((x : Int) - k).toNat else 0) =
      runOn (fun x y => if x < w ∧ y < h then run x y else 0) k x := by
  rw [runOn]
  split
  · rw [if_pos (by omega), if_pos (by omega)]
  · split
    · rw [if_neg (by omega)]
    · rfl

/-- A round of a search on the given diagonals; the diagonal on which it meets the other search,
with where it enters it, when it does. -/
def sweep (run : Nat → Nat → Nat) (meets : Int → Nat → Prop) [∀ k x, Decidable (meets k x)]
    (d : Nat) : List Int → Frontier → Option (Int × Nat) × Frontier
  | [], f => (none, f)
  | k :: rest, f =>
    let x := f.enter d k
    let f' := f.set k (x + runOn run k x)
    if meets k (x + runOn run k x) then (some (k, x), f') else sweep run meets d rest f'

section

variable {run : Nat → Nat → Nat} {meets : Int → Nat → Prop} [∀ k x, Decidable (meets k x)]
  {d : Nat} {ks : List Int} {f : Frontier}

/-- A round that meets the other search. -/
theorem sweep_eq_some {k : Int} {x : Nat} (hf : f.Whole) (hd : d < f.offset)
    (hks : ∀ k ∈ ks, OnRow d k) (h : (sweep run meets d ks f).1 = some (k, x)) :
    k ∈ ks ∧ x = f.enter d k ∧ meets k (x + runOn run k x) := by
  induction ks generalizing f with
  | nil => simp [sweep] at h
  | cons k' rest ih =>
    have hk' := hks k' (by simp)
    have hrest : ∀ l ∈ rest, OnRow d l := fun l hl => hks l (by simp [hl])
    rw [sweep] at h
    split at h
    · rename_i hmeets
      obtain ⟨rfl, rfl⟩ : k' = k ∧ f.enter d k' = x := by simpa using h
      exact ⟨by simp, rfl, hmeets⟩
    · obtain ⟨hk, hx, hmeets⟩ := ih (hf.set _) (by rwa [Frontier.offset_set]) hrest h
      rw [Frontier.enter_set hf hd hk' (hrest k hk)] at hx
      exact ⟨by simp [hk], hx, hmeets⟩

/-- **A round that does not meet the other search** gives every diagonal its number. -/
theorem sweep_eq_none (hf : f.Whole) (hd : d < f.offset) (hks : ∀ k ∈ ks, OnRow d k)
    (hnodup : ks.Nodup) (h : (sweep run meets d ks f).1 = none) :
    (sweep run meets d ks f).2.Whole ∧ (sweep run meets d ks f).2.offset = f.offset ∧
    (∀ k ∈ ks, (sweep run meets d ks f).2.at_ k = f.enter d k + runOn run k (f.enter d k) ∧
      ¬ meets k (f.enter d k + runOn run k (f.enter d k))) ∧
    ∀ l : Int, l.natAbs ≤ f.offset → l ∉ ks → (sweep run meets d ks f).2.at_ l = f.at_ l := by
  induction ks generalizing f with
  | nil => exact ⟨hf, rfl, by simp, fun l _ _ => rfl⟩
  | cons k rest ih =>
    have hk := hks k (by simp)
    have hrest : ∀ l ∈ rest, OnRow d l := fun l hl => hks l (by simp [hl])
    have hrange : k.natAbs ≤ f.offset := by
      obtain ⟨r, u, hru, hkd⟩ := hk
      omega
    obtain ⟨hnotin, hnodup⟩ := List.nodup_cons.mp hnodup
    rw [sweep] at h ⊢
    split at h
    · simp at h
    · rename_i hmeets
      rw [if_neg hmeets]
      obtain ⟨hwhole, hoffset, hvalue, hother⟩ :=
        ih (hf.set _) (by rwa [Frontier.offset_set]) hrest hnodup h
      refine ⟨hwhole, hoffset.trans (f.offset_set _ _), fun l hl => ?_, fun l hl hnot => ?_⟩
      · rcases List.mem_cons.mp hl with rfl | hl
        · refine ⟨?_, hmeets⟩
          rw [hother l (by rwa [Frontier.offset_set]) hnotin, Frontier.at_set hf hrange hrange,
            if_pos rfl]
        · have hvalue := hvalue l hl
          rwa [Frontier.enter_set hf hd hk (hrest l hl)] at hvalue
      · simp only [List.mem_cons, not_or] at hnot
        rw [hother l (by rwa [Frontier.offset_set]) hnot.2, Frontier.at_set hf hrange hl,
          if_neg hnot.1]

end

/-! ### The two directions -/

namespace Box

/-- Whether the old line `x` and the new line `y` of a box are the same. -/
def SameLines (old new : Array Bytes) (b : Box) (x y : Nat) : Prop :=
  old[b.oldStart + x]? = new[b.newStart + y]?

/-- The same, seen from the end of the box. -/
def SameBack (old new : Array Bytes) (b : Box) (x y : Nat) : Prop :=
  b.SameLines old new (b.width - 1 - x) (b.height - 1 - y)

/-- How many lines are the same from a point of a box on. -/
def runAhead (old new : Array Bytes) (b : Box) (x y : Nat) : Nat :=
  if x < b.width ∧ y < b.height then
    matchAhead old new (min (b.width - x) (b.height - y)) (b.oldStart + x) (b.newStart + y)
  else 0

/-- How many lines are the same up to a point of a box, which is given from the end. -/
def runBehind (old new : Array Bytes) (b : Box) (x y : Nat) : Nat :=
  if x < b.width ∧ y < b.height then
    matchBehind old new (min (b.width - x) (b.height - y)) (b.oldEnd - x) (b.newEnd - y)
  else 0

/-- When the search from the start meets the other one. -/
def MeetsAhead (b : Box) (d : Nat) (back : Frontier) (k : Int) (x : Nat) : Prop :=
  ((b.width : Int) - b.height) % 2 ≠ 0 ∧ (k - ((b.width : Int) - b.height)).natAbs + 1 ≤ d ∧
    b.width ≤ x + back.at_ ((b.width : Int) - b.height - k)

/-- When the search from the end meets the other one. -/
def MeetsBehind (b : Box) (d : Nat) (front : Frontier) (k : Int) (x : Nat) : Prop :=
  ((b.width : Int) - b.height) % 2 = 0 ∧ (k - ((b.width : Int) - b.height)).natAbs ≤ d ∧
    b.width ≤ x + front.at_ ((b.width : Int) - b.height - k)

instance (b : Box) (d : Nat) (back : Frontier) (k : Int) (x : Nat) :
    Decidable (b.MeetsAhead d back k x) := inferInstanceAs (Decidable (_ ∧ _))

instance (b : Box) (d : Nat) (front : Frontier) (k : Int) (x : Nat) :
    Decidable (b.MeetsBehind d front k x) := inferInstanceAs (Decidable (_ ∧ _))

theorem measures_runAhead :
    Measures (b.SameLines old new) b.width b.height (b.runAhead old new) := by
  refine ⟨fun x y i hi => ?_, fun x y hx hy => ?_⟩
  · rw [runAhead] at hi
    split at hi
    · have hle := matchAhead_le old new (min (b.width - x) (b.height - y)) (b.oldStart + x)
        (b.newStart + y)
      have hsame := @same_matchAhead old new _ _ _ i hi
      rw [Nat.add_assoc, Nat.add_assoc] at hsame
      exact ⟨by omega, by omega, hsame⟩
    · exact absurd hi (Nat.not_lt_zero i)
  · have hin : x < b.width ∧ y < b.height := by omega
    rw [runAhead, if_pos hin] at hx hy ⊢
    have hne := @ne_of_matchAhead_lt old new (min (b.width - x) (b.height - y)) (b.oldStart + x)
      (b.newStart + y) (by omega)
    rw [Nat.add_assoc, Nat.add_assoc] at hne
    exact hne

theorem measures_runBehind :
    Measures (b.SameBack old new) b.width b.height (b.runBehind old new) := by
  refine ⟨fun x y i hi => ?_, fun x y hx hy => ?_⟩
  · rw [runBehind] at hi
    split at hi
    · rename_i hin
      have hle := matchBehind_le old new (min (b.width - x) (b.height - y)) (b.oldEnd - x)
        (b.newEnd - y)
      simp only [width, height] at hin hle hi ⊢
      refine ⟨by omega, by omega, ?_⟩
      have hsame := @same_matchBehind old new
        (min (b.oldEnd - b.oldStart - x) (b.newEnd - b.newStart - y)) (b.oldEnd - x) (b.newEnd - y)
        (by omega) (by omega)
      generalize hm : matchBehind old new (min (b.oldEnd - b.oldStart - x)
        (b.newEnd - b.newStart - y)) (b.oldEnd - x) (b.newEnd - y) = m at *
      have hline := hsame (m - 1 - i) (by omega)
      rw [show b.oldEnd - x - m + (m - 1 - i) =
          b.oldStart + (b.oldEnd - b.oldStart - 1 - (x + i)) by omega,
        show b.newEnd - y - m + (m - 1 - i) =
          b.newStart + (b.newEnd - b.newStart - 1 - (y + i)) by omega] at hline
      exact hline
    · exact absurd hi (Nat.not_lt_zero i)
  · have hin : x < b.width ∧ y < b.height := by omega
    rw [runBehind, if_pos hin] at hx hy ⊢
    have hne := @ne_of_matchBehind_lt old new (min (b.width - x) (b.height - y)) (b.oldEnd - x)
      (b.newEnd - y) (by omega)
    simp only [width, height, SameBack, SameLines] at *
    generalize hm : matchBehind old new (min (b.oldEnd - b.oldStart - x)
        (b.newEnd - b.newStart - y)) (b.oldEnd - x) (b.newEnd - y) = m at *
    rw [show b.oldEnd - x - m - 1 = b.oldStart + (b.oldEnd - b.oldStart - 1 - (x + m)) by omega,
      show b.newEnd - y - m - 1 =
        b.newStart + (b.newEnd - b.newStart - 1 - (y + m)) by omega] at hne
    exact hne

end Box

theorem advance_eq (d : Nat) (back : Frontier) (ks : List Int) (f : Frontier) :
    advance old new b d back ks f =
      ((sweep (b.runAhead old new) (b.MeetsAhead d back) d ks f).1.map fun p =>
        (b.oldStart + p.2, b.newStart + (p.2 - p.1).toNat),
      (sweep (b.runAhead old new) (b.MeetsAhead d back) d ks f).2) := by
  induction ks generalizing f with
  | nil => rfl
  | cons k rest ih =>
    have hrun : (if f.enter d k < b.width ∧ 0 ≤ (f.enter d k : Int) - k ∧
        (f.enter d k : Int) - k < b.height then
          matchAhead old new
            (min (b.width - f.enter d k) (b.height - ((f.enter d k : Int) - k).toNat))
            (b.oldStart + f.enter d k) (b.newStart + ((f.enter d k : Int) - k).toNat)
        else 0) = runOn (b.runAhead old new) k (f.enter d k) :=
      runOn_on_board (fun x y => matchAhead old new (min (b.width - x) (b.height - y))
        (b.oldStart + x) (b.newStart + y)) b.width b.height k (f.enter d k)
    rw [advance, sweep]
    rw [hrun, ih]
    by_cases hmeets :
      b.MeetsAhead d back k (f.enter d k + runOn (b.runAhead old new) k (f.enter d k))
    · rw [if_pos hmeets]
      exact if_pos hmeets
    · rw [if_neg hmeets]
      exact if_neg hmeets

theorem retreat_eq (d : Nat) (front : Frontier) (ks : List Int) (f : Frontier) :
    retreat old new b d front ks f =
      ((sweep (b.runBehind old new) (b.MeetsBehind d front) d ks f).1.map fun p =>
        (b.oldEnd - (p.2 + runOn (b.runBehind old new) p.1 p.2),
          b.newEnd - ((p.2 - p.1).toNat + runOn (b.runBehind old new) p.1 p.2)),
      (sweep (b.runBehind old new) (b.MeetsBehind d front) d ks f).2) := by
  induction ks generalizing f with
  | nil => rfl
  | cons k rest ih =>
    have hrun : (if f.enter d k < b.width ∧ 0 ≤ (f.enter d k : Int) - k ∧
        (f.enter d k : Int) - k < b.height then
          matchBehind old new
            (min (b.width - f.enter d k) (b.height - ((f.enter d k : Int) - k).toNat))
            (b.oldEnd - f.enter d k) (b.newEnd - ((f.enter d k : Int) - k).toNat)
        else 0) = runOn (b.runBehind old new) k (f.enter d k) :=
      runOn_on_board (fun x y => matchBehind old new (min (b.width - x) (b.height - y))
        (b.oldEnd - x) (b.newEnd - y)) b.width b.height k (f.enter d k)
    have hpoint : ((f.enter d k : Int) - k + runOn (b.runBehind old new) k (f.enter d k)).toNat =
        ((f.enter d k : Int) - k).toNat + runOn (b.runBehind old new) k (f.enter d k) := by
      rw [runOn]
      split <;> omega
    rw [retreat, sweep]
    rw [hrun, hpoint, ih]
    by_cases hmeets :
      b.MeetsBehind d front k (f.enter d k + runOn (b.runBehind old new) k (f.enter d k))
    · rw [if_pos hmeets]
      exact if_pos hmeets
    · rw [if_neg hmeets]
      exact if_neg hmeets

/-! ### Both searches -/

section

variable {same : Nat → Nat → Prop} {N M : Nat} {run : Nat → Nat → Nat} {meets : Int → Nat → Prop}
  [∀ k x, Decidable (meets k x)] {d : Nat} {f : Frontier}

theorem runOn_of_le (run : Nat → Nat → Nat) {k : Int} {x : Nat} (h : k ≤ x) :
    runOn run k x = run x (x - k).toNat := if_pos h

/-- A round that meets the other search can reach where it meets it. -/
theorem reaches_of_sweep (hrow : Row same N M d f.at_) (hrun : Measures same N M run)
    (hf : f.Whole) (hd : d < f.offset) {k : Int} {x : Nat} {f' : Frontier}
    (h : sweep run meets d (diagonals d) f = (some (k, x), f')) :
    Reaches same N M d (x + runOn run k x) ((x - k).toNat + runOn run k x) ∧
      k ≤ x ∧ meets k (x + runOn run k x) := by
  have hfirst : (sweep run meets d (diagonals d) f).1 = some (k, x) := by rw [h]
  obtain ⟨hk, hx, hmeets⟩ := sweep_eq_some hf hd (fun _ => mem_diagonals.mp) hfirst
  have hk := mem_diagonals.mp hk
  rw [Frontier.enter_eq] at hx
  have hle := (hrow.reaches_enter hk).1
  rw [← hx] at hle
  refine ⟨?_, hle, hmeets⟩
  have hreach := hrow.reaches_run hrun hk
  rwa [← hx, ← runOn_of_le run hle] at hreach

/-- **A round that does not meet the other search** has come as far as `d` edits go. -/
theorem furthest_of_sweep (hrow : Row same N M d f.at_) (hrun : Measures same N M run)
    (hf : f.Whole) (hd : d < f.offset) {f' : Frontier}
    (h : sweep run meets d (diagonals d) f = (none, f')) :
    f'.Whole ∧ f'.offset = f.offset ∧ Furthest same N M d f'.at_ ∧
      ∀ k, OnRow d k → ¬ meets k (f'.at_ k) := by
  obtain ⟨hwhole, hoffset, hvalue, -⟩ :=
    sweep_eq_none hf hd (fun _ => mem_diagonals.mp) (nodup_diagonals d) (by rw [h])
  rw [h] at hwhole hoffset hvalue
  refine ⟨hwhole, hoffset, hrow.furthest hrun fun k hk => ?_, fun k hk => ?_⟩
  · have hle := (hrow.reaches_enter hk).1
    rw [(hvalue k (mem_diagonals.mpr hk)).1, Frontier.enter_eq, runOn_of_le run hle]
  · obtain ⟨hnumber, hnot⟩ := hvalue k (mem_diagonals.mpr hk)
    rwa [hnumber]

end

/-- What both searches know before they make `d` edits: they have come as far as they can, and
have not met. -/
structure Searching (old new : Array Bytes) (b : Box) (d : Nat) (front back : Frontier) : Prop where
  wholeFront : front.Whole
  wholeBack : back.Whole
  ahead : Row (b.SameLines old new) b.width b.height d front.at_
  behind : Row (b.SameBack old new) b.width b.height d back.at_
  all : ∀ n, Steps (b.SameLines old new) 0 0 n b.width b.height → 2 * d ≤ n + 1

namespace Searching

variable {d : Nat} {front back front' back' : Frontier} {k : Int} {x : Nat}

/-- Where the search from the start meets the other one is in the box. -/
theorem point_ahead (h : Searching old new b d front back) (hd : d < front.offset)
    (hsweep : sweep (b.runAhead old new) (b.MeetsAhead d back) d (diagonals d) front =
      (some (k, x), front')) : x ≤ b.width ∧ (x - k).toNat ≤ b.height := by
  obtain ⟨hreach, hle, -, hnear, -⟩ :=
    reaches_of_sweep h.ahead Box.measures_runAhead h.wholeFront hd hsweep
  have hall : ∀ m, Steps (b.SameLines old new) 0 0 m b.width b.height → d + (d - 1) ≤ m := by
    intro m hm
    have := h.all m hm
    omega
  have hin := on_board hreach (by omega) hall
  omega

/-- Where the search from the end meets the other one is in the box. -/
theorem point_behind (h : Searching old new b d front back) (hd : d < back.offset)
    (hall : ∀ n, Steps (b.SameLines old new) 0 0 n b.width b.height → d + d ≤ n)
    (hsweep : sweep (b.runBehind old new) (b.MeetsBehind d front') d (diagonals d) back =
      (some (k, x), back')) : x + runOn (b.runBehind old new) k x ≤ b.width ∧
        (x - k).toNat + runOn (b.runBehind old new) k x ≤ b.height := by
  obtain ⟨hreach, hle, -, hnear, -⟩ :=
    reaches_of_sweep h.behind Box.measures_runBehind h.wholeBack hd hsweep
  exact on_board hreach (by omega) fun m hm => hall m hm.across

/-- After a round from the start that does not meet the other search, no path has fewer edits than
both searches have made by then. -/
theorem all_ahead (h : Searching old new b d front back) (hd : d < front.offset)
    (hsweep : sweep (b.runAhead old new) (b.MeetsAhead d back) d (diagonals d) front =
      (none, front')) (n : Nat) (hn : Steps (b.SameLines old new) 0 0 n b.width b.height) :
    d + d ≤ n := by
  obtain ⟨-, -, hfront, hnot⟩ :=
    furthest_of_sweep h.ahead Box.measures_runAhead h.wholeFront hd hsweep
  have hall := h.all n hn
  have hparity := hn.parity
  refine Nat.le_of_not_lt fun hlt => ?_
  -- a path of one edit less would be one that both searches meet on
  rcases h.behind with _ | hback
  · omega
  · rename_i e
    obtain rfl : n = e + 1 + e := by omega
    obtain ⟨k, hk, hnear, hmeet⟩ := meet_of_odd hfront hback hn
    exact hnot k hk ⟨by omega, by omega, hmeet⟩

/-- **A round of both searches** in which they do not meet. -/
theorem next (h : Searching old new b d front back) (hd : d < front.offset) (hd' : d < back.offset)
    (hfront : sweep (b.runAhead old new) (b.MeetsAhead d back) d (diagonals d) front =
      (none, front'))
    (hback : sweep (b.runBehind old new) (b.MeetsBehind d front') d (diagonals d) back =
      (none, back')) :
    Searching old new b (d + 1) front' back' ∧ front'.offset = front.offset ∧
      back'.offset = back.offset := by
  obtain ⟨hwhole, hoffset, hahead, -⟩ :=
    furthest_of_sweep h.ahead Box.measures_runAhead h.wholeFront hd hfront
  obtain ⟨hwhole', hoffset', hbehind, hnot⟩ :=
    furthest_of_sweep h.behind Box.measures_runBehind h.wholeBack hd' hback
  refine ⟨⟨hwhole, hwhole', .next hahead, .next hbehind, fun n hn => ?_⟩, hoffset, hoffset'⟩
  have hle := h.all_ahead hd hfront n hn
  have hparity := hn.parity
  refine Nat.le_of_not_lt fun hlt => ?_
  obtain rfl : n = d + d := by omega
  obtain ⟨k, hk, hnear, hmeet⟩ := meet_of_even hahead hbehind hn
  exact hnot k hk ⟨by omega, hnear, hmeet⟩

end Searching

/-- A point of a box. -/
def Box.Has (b : Box) (p : Nat × Nat) : Prop :=
  (b.oldStart ≤ p.1 ∧ p.1 ≤ b.oldEnd) ∧ b.newStart ≤ p.2 ∧ p.2 ≤ b.newEnd

theorem searchRows_in_box (hold : b.oldStart ≤ b.oldEnd) (hnew : b.newStart ≤ b.newEnd)
    {rows d : Nat} {front back : Frontier} (h : Searching old new b d front back)
    (hfront : d + rows ≤ front.offset) (hback : d + rows ≤ back.offset) {p : Nat × Nat}
    (hp : searchRows old new b rows d front back = some p) : b.Has p := by
  have hwidth : b.oldStart + b.width = b.oldEnd := Nat.add_sub_cancel' hold
  have hheight : b.newStart + b.height = b.newEnd := Nat.add_sub_cancel' hnew
  induction rows generalizing d front back with
  | zero => simp [searchRows] at hp
  | succ rows ih =>
    rw [searchRows, advance_eq] at hp
    rcases hsweep : sweep (b.runAhead old new) (b.MeetsAhead d back) d (diagonals d) front with
      ⟨_ | ⟨k, x⟩, front'⟩
    · rw [hsweep] at hp
      simp only [Option.map_none, retreat_eq] at hp
      rcases hsweep' :
        sweep (b.runBehind old new) (b.MeetsBehind d front') d (diagonals d) back with
        ⟨_ | ⟨k, x⟩, back'⟩
      · rw [hsweep'] at hp
        obtain ⟨hnext, hoffset, hoffset'⟩ := h.next (by omega) (by omega) hsweep hsweep'
        exact ih hnext (by omega) (by omega) hp
      · obtain ⟨hx, hy⟩ := h.point_behind (by omega) (h.all_ahead (by omega) hsweep) hsweep'
        rw [hsweep'] at hp
        obtain rfl := Option.some.inj hp
        exact ⟨⟨by dsimp only; omega, by dsimp only; omega⟩, by dsimp only; omega,
          by dsimp only; omega⟩
    · obtain ⟨hx, hy⟩ := h.point_ahead (by omega) hsweep
      rw [hsweep] at hp
      obtain rfl := Option.some.inj hp
      exact ⟨⟨by dsimp only; omega, by dsimp only; omega⟩, by dsimp only; omega,
        by dsimp only; omega⟩

/-- **The middle of a box is in it.** -/
theorem middle_in_box (hold : b.oldStart ≤ b.oldEnd) (hnew : b.newStart ≤ b.newEnd) {p : Nat × Nat}
    (h : middle old new b = some p) : b.Has p := by
  refine searchRows_in_box hold hnew ⟨Frontier.whole_start _, Frontier.whole_start _,
    .first (Frontier.at_start _ _), .first (Frontier.at_start _ _), fun n _ => by omega⟩ ?_ ?_ h
  · simp only [Frontier.start]
    omega
  · simp only [Frontier.start]
    omega

end Baseline.Diff
