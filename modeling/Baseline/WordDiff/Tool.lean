import Baseline.Path
import Baseline.Fault

/-!
# The word-diff tool

How the tool is called, what its failures mean, and whether it is still worth
calling.  A missing or forbidden executable is gone for the whole run; a lost
race with other spawns concerns one artifact; anything else is the run's
problem.
-/

namespace Baseline.WordDiff

/-- What the tool prints before deleted words. -/
def deleteMark : String := "##WDIFF_DEL##"

/-- What the tool prints before inserted words. -/
def insertMark : String := "##WDIFF_ADD##"

/-- What the tool prints after either. -/
def endMark : String := "##WDIFF_END##"

/-- The arguments of the tool. -/
def arguments (expected actual : Path) : List String :=
  ["--start-delete=" ++ deleteMark, "--end-delete=" ++ endMark,
   "--start-insert=" ++ insertMark, "--end-insert=" ++ endMark,
   expected.text, actual.text]

/-- What a failed spawn means. -/
inductive SpawnFailure
  /-- The tool is missing or cannot be run: not again in this run. -/
  | unavailable
  /-- A race was lost: this artifact only. -/
  | transient
  /-- The environment is broken. -/
  | fatal
deriving DecidableEq

/-- The error numbers of a tool that is not there: no file, no permission, no child. -/
def unavailableNumbers : List Int := [2, 13, 10]

/-- The error numbers of processes or descriptors running short, and of a busy executable. -/
def transientNumbers : List Int := [11, 4, 24, 23, 26]

/-- What a failed spawn means: by kind, and by error number when the kind does not tell. -/
def classify (e : Fault) : SpawnFailure :=
  match e.kind with
  | .notFound | .permissionDenied => .unavailable
  | .wouldBlock | .interrupted => .transient
  | _ =>
    match e.number? with
    | none => .fatal
    | some n =>
      if n ∈ unavailableNumbers then .unavailable
      else if n ∈ transientNumbers then .transient
      else .fatal

/-- Whether the tool is still worth calling in this run. -/
structure Availability where
  isAvailable : Bool
deriving DecidableEq

namespace Availability

/-- At the start of a run. -/
def initial : Availability := ⟨true⟩

/-- After the tool was found missing; tells whether that is new. -/
def markUnavailable (a : Availability) : Bool × Availability := (a.isAvailable, ⟨false⟩)

end Availability

end Baseline.WordDiff
