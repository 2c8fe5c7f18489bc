import Baseline.Diff.Line

/-!
# Edits

An edit script turns one list of lines into another: runs that stay, runs of old
lines that go, runs of new lines that come, and runs that replace each other.
Every edit says where it stands on both sides and how many lines of each side it
covers.
-/

namespace Baseline.Diff

/-- What an edit does. -/
inductive Action
  | keep
  | delete
  | insert
  | replace
deriving DecidableEq

/-- A run of lines treated alike. -/
structure Edit where
  action : Action
  oldStart : Nat
  newStart : Nat
  oldLength : Nat
  newLength : Nat
deriving DecidableEq

namespace Edit

/-- A run of lines that stays. -/
def keep (oldStart newStart length : Nat) : Edit := ⟨.keep, oldStart, newStart, length, length⟩

/-- A run of old lines that goes. -/
def delete (oldStart newStart length : Nat) : Edit := ⟨.delete, oldStart, newStart, length, 0⟩

/-- A run of new lines that comes. -/
def insert (oldStart newStart length : Nat) : Edit := ⟨.insert, oldStart, newStart, 0, length⟩

/-- The end of the old lines covered. -/
def oldEnd (e : Edit) : Nat := e.oldStart + e.oldLength

/-- The end of the new lines covered. -/
def newEnd (e : Edit) : Nat := e.newStart + e.newLength

/-- Whether no line is covered. -/
def isEmpty (e : Edit) : Bool := e.oldLength == 0 && e.newLength == 0

/-- Whether the lines stay. -/
def isKeep (e : Edit) : Bool := e.action == .keep

/-- The old lines covered. -/
def oldLines (old : List Bytes) (e : Edit) : List Bytes := (old.drop e.oldStart).take e.oldLength

/-- The new lines covered. -/
def newLines (new : List Bytes) (e : Edit) : List Bytes := (new.drop e.newStart).take e.newLength

end Edit

/-! ### Runs of equal lines -/

/-- How many of the next `length` lines agree from `i` and `j` on. -/
def matchAhead (old new : Array Bytes) : Nat → Nat → Nat → Nat
  | 0, _, _ => 0
  | length + 1, i, j =>
    if old[i]? = new[j]? then matchAhead old new length (i + 1) (j + 1) + 1 else 0

/-- How many of the `length` lines that end at `i` and `j` agree, from the end. -/
def matchBehind (old new : Array Bytes) : Nat → Nat → Nat → Nat
  | 0, _, _ => 0
  | length + 1, i, j =>
    if old[i - 1]? = new[j - 1]? then matchBehind old new length (i - 1) (j - 1) + 1 else 0

theorem matchAhead_le (old new : Array Bytes) (length i j : Nat) :
    matchAhead old new length i j ≤ length := by
  induction length generalizing i j with
  | zero => simp [matchAhead]
  | succ length ih =>
    have := ih (i + 1) (j + 1)
    simp only [matchAhead]
    split <;> omega

theorem matchBehind_le (old new : Array Bytes) (length i j : Nat) :
    matchBehind old new length i j ≤ length := by
  induction length generalizing i j with
  | zero => simp [matchBehind]
  | succ length ih =>
    have := ih (i - 1) (j - 1)
    simp only [matchBehind]
    split <;> omega

end Baseline.Diff
