import Baseline.Diff.Edit

/-!
# Compacting edit scripts

A run of inserted lines next to equal lines can often be moved along them
without changing what the script does.  Each deletion, and then each insertion,
is moved up as far as it goes and then down as far as it goes, and merges with
what it meets of its own kind.

A script with one edit picked out is a `Cursor`: the edits before it from the
nearest on, the edit, the edits after it.  Moving past a change of the other
kind leaves the positions of both as they are.
-/

namespace Baseline.Diff

/-- An edit picked out of a script. -/
structure Cursor where
  /-- The edits before, the nearest first. -/
  before : List Edit
  current : Edit
  after : List Edit

namespace Edit

/-- The edit moved `n` lines up. -/
def moveUp (e : Edit) (n : Nat) : Edit :=
  { e with oldStart := e.oldStart - n, newStart := e.newStart - n }

/-- The edit moved `n` lines down. -/
def moveDown (e : Edit) (n : Nat) : Edit :=
  { e with oldStart := e.oldStart + n, newStart := e.newStart + n }

/-- The edit longer by `n` lines on both sides. -/
def lengthen (e : Edit) (n : Nat) : Edit :=
  { e with oldLength := e.oldLength + n, newLength := e.newLength + n }

/-- The edit shorter by `n` lines on both sides. -/
def shorten (e : Edit) (n : Nat) : Edit :=
  { e with oldLength := e.oldLength - n, newLength := e.newLength - n }

/-- The edit and one of the same kind after it as one. -/
def merge (e next : Edit) : Edit :=
  { e with oldLength := e.oldLength + next.oldLength, newLength := e.newLength + next.newLength }

end Edit

/-- How many old lines at the end of `kept` are the new lines at the end of `e`. -/
def sharedEnd (old new : Array Bytes) (kept e : Edit) : Nat :=
  matchBehind old new (min kept.oldLength e.newLength) kept.oldEnd e.newEnd

/-- How many old lines at the start of `kept` are the new lines at the start of `e`. -/
def sharedStart (old new : Array Bytes) (kept e : Edit) : Nat :=
  matchAhead old new (min kept.oldLength e.newLength) kept.oldStart e.newStart

theorem sharedEnd_le (old new : Array Bytes) (kept e : Edit) :
    sharedEnd old new kept e ≤ kept.oldLength :=
  Nat.le_trans (matchBehind_le ..) (Nat.min_le_left ..)

theorem sharedStart_le (old new : Array Bytes) (kept e : Edit) :
    sharedStart old new kept e ≤ kept.oldLength :=
  Nat.le_trans (matchAhead_le ..) (Nat.min_le_left ..)

/-- A bound on how far an edit can move past the given edits. -/
def room (edits : List Edit) : Nat := edits.foldr (fun e n => e.oldLength + 1 + n) 0

/-- The edits after a change that moved up by `n` lines out of `kept`: the run of equal lines
below it grows upwards, or is new. -/
def keepBelow (kept e : Edit) (n : Nat) : List Edit → List Edit
  | next :: more =>
    if next.isKeep then (next.moveUp n).lengthen n :: more
    else .keep (kept.oldEnd - n) (e.newEnd - n) n :: next :: more
  | [] => [.keep (kept.oldEnd - n) (e.newEnd - n) n]

/-- The edits before a change that moved down by `n` lines into `kept`: the run of equal lines
above it grows downwards, or is new. -/
def keepAbove (kept e : Edit) (n : Nat) : List Edit → List Edit
  | last :: more =>
    if last.isKeep then last.lengthen n :: more
    else .keep kept.oldStart e.newStart n :: last :: more
  | [] => [.keep kept.oldStart e.newStart n]

/-- Move a change up as far as it goes. -/
def slideUp (old new : Array Bytes) (before : List Edit) (e : Edit) (after : List Edit) : Cursor :=
  match before with
  | [] => ⟨[], e, after⟩
  | last :: more =>
    if last.isKeep then
      let n := sharedEnd old new last e
      have _ : n ≤ last.oldLength := sharedEnd_le old new last e
      if 0 < n then
        let after' := keepBelow last e n after
        if (last.shorten n).isEmpty then slideUp old new more (e.moveUp n) after'
        else slideUp old new (last.shorten n :: more) (e.moveUp n) after'
      else if last.isEmpty then slideUp old new more e after
      else ⟨last :: more, e, after⟩
    else if last.action = e.action then slideUp old new more (last.merge e) after
    else slideUp old new more e (last :: after)
termination_by room before
decreasing_by
  all_goals simp [room, Edit.shorten]
  all_goals omega

/-- Move a change down as far as it goes. -/
def slideDown (old new : Array Bytes) (before : List Edit) (e : Edit) (after : List Edit) :
    Cursor :=
  match after with
  | [] => ⟨before, e, []⟩
  | next :: more =>
    if next.isKeep then
      let n := sharedStart old new next e
      have _ : n ≤ next.oldLength := sharedStart_le old new next e
      if 0 < n then
        let before' := keepAbove next e n before
        if (next.shorten n).isEmpty then slideDown old new before' (e.moveDown n) more
        else slideDown old new before' (e.moveDown n) ((next.shorten n).moveDown n :: more)
      else if next.isEmpty then slideDown old new before e more
      else ⟨before, e, next :: more⟩
    else if next.action = e.action then slideDown old new before (e.merge next) more
    else slideDown old new (next :: before) e more
termination_by room after
decreasing_by
  all_goals simp [room, Edit.shorten, Edit.moveDown]
  all_goals omega

/-- Move every edit of one kind up and then down, from the first on.  The first argument bounds
how many are moved. -/
def slideAll (old new : Array Bytes) (action : Action) : Nat → List Edit → List Edit → List Edit
  | _, before, [] => before.reverse
  | 0, before, after => before.reverse ++ after
  | moves + 1, before, e :: after =>
    if e.action = action then
      let up := slideUp old new before e after
      let down := slideDown old new up.before up.current up.after
      slideAll old new action moves (down.current :: down.before) down.after
    else slideAll old new action moves (e :: before) after

/-- A script with its deletions and then its insertions moved as far down as they go. -/
def compact (old new : Array Bytes) (edits : List Edit) : List Edit :=
  let moves := 2 * (old.size + new.size + edits.length)
  slideAll old new .insert moves [] (slideAll old new .delete moves [] edits)

/-! ### Replacements -/

/-- What has been read of a run of changes, or of equal lines, and not yet been put out. -/
structure Pending where
  kept : Option Edit
  deleted : Option Edit
  inserted : Option Edit

namespace Pending

/-- Nothing read. -/
def none : Pending := ⟨.none, .none, .none⟩

/-- The changes read: a deletion and an insertion make a replacement. -/
def changes (p : Pending) : List Edit :=
  match p.deleted, p.inserted with
  | some d, some i => [⟨.replace, d.oldStart, i.newStart, d.oldLength, i.newLength⟩]
  | some d, .none => [d]
  | .none, some i => [i]
  | .none, .none => []

/-- An edit added to one of the same kind, if there is one. -/
def grow (e : Edit) : Option Edit → Option Edit
  | some first => some (first.merge e)
  | .none => some e

end Pending

/-- A script in which neighbouring deletions and insertions are replacements and no two
neighbours are of one kind. -/
def combine : Pending → List Edit → List Edit
  | p, [] => p.kept.toList ++ p.changes
  | p, e :: rest =>
    match e.action with
    | .keep => p.changes ++ combine ⟨Pending.grow e p.kept, none, none⟩ rest
    | .delete => p.kept.toList ++ combine ⟨none, Pending.grow e p.deleted, p.inserted⟩ rest
    | _ => p.kept.toList ++ combine ⟨none, p.deleted, Pending.grow e p.inserted⟩ rest

end Baseline.Diff
