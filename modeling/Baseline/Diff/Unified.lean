import Baseline.Diff.Compact
import Baseline.Diff.Script
import Baseline.Text.Utf8

/-!
# Unified diffs

The changes between two byte strings, as hunks: each shows a group of changes
with up to three equal lines on either side, under a header that says which
lines of both sides it stands for.

Changes more than six equal lines apart are in different hunks.  Equal byte
strings have no hunks, and then not even the two names are written.
-/

namespace Baseline.Diff

/-- How many equal lines are shown around changes. -/
def contextLines : Nat := 3

/-- The script that a unified diff shows. -/
def edits (old new : Array Bytes) : List Edit :=
  combine .none (compact old new (script old new))

/-! ### Grouping -/

/-- A script whose first run of equal lines is cut to its last `n`. -/
def trimFirst (n : Nat) : List Edit → List Edit
  | e :: rest =>
    if e.isKeep then (e.moveDown (e.oldLength - n)).shorten (e.oldLength - n) :: rest
    else e :: rest
  | [] => []

/-- A script whose last run of equal lines is cut to its first `n`. -/
def trimLast (n : Nat) : List Edit → List Edit
  | [] => []
  | [e] => if e.isKeep then [e.shorten (e.oldLength - n)] else [e]
  | e :: rest => e :: trimLast n rest

/-- The groups of a script: a run of more than `2 * n` equal lines ends one with its first `n`
lines and starts the next with its last `n`.  The first argument is the group so far, the last
edit first. -/
def splitGroups (n : Nat) : List Edit → List Edit → List (List Edit)
  | group, [] =>
    match group with
    | [] => []
    | [e] => if e.isKeep then [] else [[e]]
    | _ => [group.reverse]
  | group, e :: rest =>
    if e.isKeep ∧ 2 * n < e.oldLength then
      (e.shorten (e.oldLength - n) :: group).reverse ::
        splitGroups n [(e.moveDown (e.oldLength - n)).shorten (e.oldLength - n)] rest
    else splitGroups n (e :: group) rest

/-- The groups of changes of a script, each with up to `n` equal lines around its changes. -/
def groups (n : Nat) (script : List Edit) : List (List Edit) :=
  splitGroups n [] (trimLast n (trimFirst n script))

/-! ### Hunks -/

/-- What a line of a hunk is. -/
inductive Mark
  | context
  | deleted
  | inserted
deriving DecidableEq

namespace Mark

/-- The byte in front of a line. -/
def byte : Mark → UInt8
  | .context => 32
  | .deleted => 45
  | .inserted => 43

end Mark

/-- A group of changes with the lines of both sides that it stands for, counted from zero. -/
structure Hunk where
  oldStart : Nat
  oldEnd : Nat
  newStart : Nat
  newEnd : Nat
  lines : List (Mark × Bytes)
deriving DecidableEq

/-- The lines that an edit shows: the old ones of a replacement come first. -/
def Edit.shown (old new : List Bytes) (e : Edit) : List (Mark × Bytes) :=
  match e.action with
  | .keep => (e.oldLines old).map (Mark.context, ·)
  | .delete => (e.oldLines old).map (Mark.deleted, ·)
  | .insert => (e.newLines new).map (Mark.inserted, ·)
  | .replace =>
    (e.oldLines old).map (Mark.deleted, ·) ++ (e.newLines new).map (Mark.inserted, ·)

/-- The hunk of a group of edits, from the first one's start to the last one's end. -/
def Hunk.ofGroup? (old new : List Bytes) (group : List Edit) : Option Hunk :=
  match group.head?, group.getLast? with
  | some first, some last =>
    some ⟨first.oldStart, last.oldEnd, first.newStart, last.newEnd,
      group.flatMap (Edit.shown old new)⟩
  | _, _ => none

/-- The hunks of the changes from `expected` to `actual`. -/
def hunks (expected actual : Bytes) : List Hunk :=
  let old := lines expected
  let new := lines actual
  (groups contextLines (edits old.toArray new.toArray)).filterMap (Hunk.ofGroup? old new)

/-! ### Writing -/

/-- A range of a hunk header: the first line counted from one, and how many unless it is one; an
empty range names the line before it. -/
def rangeText (first past : Nat) : String :=
  if past - first = 1 then toString (first + 1)
  else if past - first = 0 then toString first ++ ",0"
  else toString (first + 1) ++ "," ++ toString (past - first)

/-- The header of a hunk. -/
def Hunk.header (h : Hunk) : String :=
  "@@ -" ++ rangeText h.oldStart h.oldEnd ++ " +" ++ rangeText h.newStart h.newEnd ++ " @@\n"

/-- A line of a hunk as it is written; a line without an end gets a line feed. -/
def lineText (line : Mark × Bytes) : Bytes :=
  line.1.byte :: (line.2 ++ if isTerminated line.2 then [] else [lineFeed])

/-- A hunk as it is written; without lines, nothing. -/
def Hunk.write (h : Hunk) : Bytes :=
  if h.lines = [] then [] else Utf8.encode h.header ++ h.lines.flatMap lineText

/-- The unified diff from `expected` to `actual`; empty when nothing differs. -/
def unified (expected actual : Bytes) (expectedName actualName : String) : Bytes :=
  match hunks expected actual with
  | [] => []
  | hs =>
    Utf8.encode ("--- " ++ expectedName ++ "\n+++ " ++ actualName ++ "\n") ++ hs.flatMap Hunk.write

end Baseline.Diff
