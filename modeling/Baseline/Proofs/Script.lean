import Baseline.Script

/-!
# Programs of the system

A program is started apart from the files that it works on, which are handed to it and taken
back.  Of the programs of the system `true` gives them back as they are (`start_true`).
-/

namespace Baseline

/-- Relative paths start where they start. -/
theorem FileTree.startAt_start (t : FileTree) : t.startAt t.start = t := by
  unfold FileTree.startAt
  split <;> rfl

namespace Script

theorem outputOf_true (files : FileTree) (settings : List (List Char × List Char))
    (words : List (List Char)) : outputOf files settings ⟨"true".toList, words⟩ = ([], files) := by
  have hfind : Program.find? "true".toList = some fun _ => Act.went 0 := rfl
  have hlaunch : launch depth ⟨"true".toList, words⟩ = Act.apart (return ()) (Act.went 0) := by
    rw [show depth = 99999 + 1 from rfl, launch]
    dsimp only
    rw [if_neg (by decide), if_neg (by decide), hfind]
  unfold outputOf
  rw [hlaunch]
  show (([] : Bytes), (files.startAt files.start).startAt files.start) = _
  rw [FileTree.startAt_start, FileTree.startAt_start]

/-- **The program `true`** writes nothing and leaves the files alone, whatever it is given. -/
theorem start_true (files : FileTree) (directories : List Path) (settings : List (String × String))
    {arguments : List String} (h : ∀ a ∈ arguments, (0 : UInt8) ∉ Utf8.encode a) :
    start files directories settings (.ofString "/bin/true") arguments = (.ok [], files) := by
  have hzero : ¬ ((0 : UInt8) ∈ (Path.ofString "/bin/true").bytes ∨
      ((arguments.map Utf8.encode).any fun a => a.contains 0) = true) := by
    rintro (hpath | harguments)
    · revert hpath
      decide
    · obtain ⟨a, ha, hmem⟩ : ∃ a ∈ arguments, (0 : UInt8) ∈ Utf8.encode a := by
        simpa using harguments
      exact h a ha hmem
  have hfound : ∀ words, Launch.find files (charsOf (Path.ofString "/bin/true").bytes) words =
      .ok ⟨"true".toList, words⟩ := fun _ => rfl
  unfold start
  dsimp only
  rw [if_neg hzero, if_neg (by decide), if_pos (by decide), hfound]
  dsimp only
  rw [outputOf_true]

end Script

end Baseline
