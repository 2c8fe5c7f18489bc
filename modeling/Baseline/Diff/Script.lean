import Baseline.Diff.Edit

/-!
# Edit scripts

`script` finds an edit script by dividing: equal lines at both ends of a box are
kept, and what is left is cut at a point that an optimal path passes through.

The point is found by two searches, one from each end of the box, that advance
by one edit at a time (`searchRows`).  On every diagonal `k` (old position minus
new position) a search remembers the furthest old position it has reached; when
the two searches meet on a diagonal, the start of the last run of equal lines is
the point.
-/

namespace Baseline.Diff

/-- A part of the two sides: old lines from `oldStart` to `oldEnd`, new lines from `newStart`
to `newEnd`. -/
structure Box where
  oldStart : Nat
  oldEnd : Nat
  newStart : Nat
  newEnd : Nat

namespace Box

/-- How many old lines the box holds. -/
def width (b : Box) : Nat := b.oldEnd - b.oldStart

/-- How many new lines the box holds. -/
def height (b : Box) : Nat := b.newEnd - b.newStart

end Box

/-- The furthest positions on the diagonals from `-offset` to `offset`. -/
structure Frontier where
  offset : Nat
  reached : Array Nat

namespace Frontier

/-- Nothing reached on any diagonal. -/
def start (offset : Nat) : Frontier := ⟨offset, Array.replicate (2 * offset + 1) 0⟩

/-- The furthest position on a diagonal. -/
def at_ (f : Frontier) (k : Int) : Nat := f.reached.getD (k + f.offset).toNat 0

/-- The frontier with the position on a diagonal replaced. -/
def set (f : Frontier) (k : Int) (x : Nat) : Frontier :=
  { f with reached := f.reached.setIfInBounds (k + f.offset).toNat x }

/-- Where a search of `d` edits enters diagonal `k`: from the neighbour that is further. -/
def enter (f : Frontier) (d : Nat) (k : Int) : Nat :=
  if k = -d ∨ (k ≠ d ∧ f.at_ (k - 1) < f.at_ (k + 1)) then f.at_ (k + 1) else f.at_ (k - 1) + 1

end Frontier

/-- The diagonals that `d` edits can end on, from the highest. -/
def diagonals (d : Nat) : List Int :=
  (List.range (d + 1)).map fun (i : Nat) => (d : Int) - 2 * (i : Int)

/-- Advance the search from the start on the given diagonals; a point when it meets the other
search. -/
def advance (old new : Array Bytes) (b : Box) (d : Nat) (back : Frontier) :
    List Int → Frontier → Option (Nat × Nat) × Frontier
  | [], f => (none, f)
  | k :: rest, f =>
    let x := f.enter d k
    let y : Int := x - k
    let run :=
      if x < b.width ∧ 0 ≤ y ∧ y < b.height then
        matchAhead old new (min (b.width - x) (b.height - y.toNat)) (b.oldStart + x)
          (b.newStart + y.toNat)
      else 0
    let delta : Int := b.width - b.height
    let f := f.set k (x + run)
    if delta % 2 ≠ 0 ∧ (k - delta).natAbs + 1 ≤ d ∧ b.width ≤ x + run + back.at_ (delta - k) then
      (some (b.oldStart + x, b.newStart + y.toNat), f)
    else advance old new b d back rest f

/-- Advance the search from the end on the given diagonals; a point when it meets the other
search. -/
def retreat (old new : Array Bytes) (b : Box) (d : Nat) (front : Frontier) :
    List Int → Frontier → Option (Nat × Nat) × Frontier
  | [], f => (none, f)
  | k :: rest, f =>
    let x := f.enter d k
    let y : Int := x - k
    let run :=
      if x < b.width ∧ 0 ≤ y ∧ y < b.height then
        matchBehind old new (min (b.width - x) (b.height - y.toNat)) (b.oldEnd - x)
          (b.newEnd - y.toNat)
      else 0
    let delta : Int := b.width - b.height
    let f := f.set k (x + run)
    if delta % 2 = 0 ∧ (k - delta).natAbs ≤ d ∧ b.width ≤ x + run + front.at_ (delta - k) then
      (some (b.oldEnd - (x + run), b.newEnd - (y + run).toNat), f)
    else retreat old new b d front rest f

/-- Let both searches make `d` edits, then one more, for `rows` rounds. -/
def searchRows (old new : Array Bytes) (b : Box) :
    (rows d : Nat) → Frontier → Frontier → Option (Nat × Nat)
  | 0, _, _, _ => none
  | rows + 1, d, front, back =>
    match advance old new b d back (diagonals d) front with
    | (some point, _) => some point
    | (none, front) =>
      match retreat old new b d front (diagonals d) back with
      | (some point, _) => some point
      | (none, back) => searchRows old new b rows (d + 1) front back

/-- A point of the box that an optimal path passes through. -/
def middle (old new : Array Bytes) (b : Box) : Option (Nat × Nat) :=
  let rows := (b.width + b.height + 1) / 2 + 1
  let nothing := Frontier.start (rows + 1)
  searchRows old new b rows 0 nothing nothing

/-- A keep of the given length, when it is not empty. -/
def keepRun (oldStart newStart length : Nat) : List Edit :=
  if length = 0 then [] else [.keep oldStart newStart length]

/-- The edits that turn the old lines of a box into its new lines.  The first argument bounds how
often a box is divided. -/
def divide (old new : Array Bytes) : Nat → Box → List Edit
  | divisions, b =>
    let head := matchAhead old new (min b.width b.height) b.oldStart b.newStart
    let i := b.oldStart + head
    let j := b.newStart + head
    let tail := matchBehind old new (min (b.oldEnd - i) (b.newEnd - j)) b.oldEnd b.newEnd
    let i' := b.oldEnd - tail
    let j' := b.newEnd - tail
    let inner :=
      if i' ≤ i ∧ j' ≤ j then []
      else if j' ≤ j then [.delete i j (i' - i)]
      else if i' ≤ i then [.insert i j (j' - j)]
      else
        match divisions with
        | 0 => [.delete i j (i' - i), .insert i j (j' - j)]
        | divisions + 1 =>
          match middle old new ⟨i, i', j, j'⟩ with
          | some (x, y) =>
            divide old new divisions ⟨i, x, j, y⟩ ++ divide old new divisions ⟨x, i', y, j'⟩
          | none => [.delete i j (i' - i), .insert i j (j' - j)]
    keepRun b.oldStart b.newStart head ++ inner ++ keepRun i' j' tail

/-- An edit script from the old lines to the new lines. -/
def script (old new : Array Bytes) : List Edit :=
  divide old new (old.size + new.size) ⟨0, old.size, 0, new.size⟩

end Baseline.Diff
