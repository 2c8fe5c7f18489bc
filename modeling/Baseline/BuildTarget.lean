/-!
# Build targets and producers

Which build of the test driver made an output, and which of its processes.  No
verdict depends on either.
-/

namespace Baseline

/-- The build of the driver. -/
inductive BuildTarget
  | debug
  | release
deriving DecidableEq

namespace BuildTarget

/-- The name of a target. -/
def name : BuildTarget → String
  | .debug => "debug"
  | .release => "release"

/-- The target when nothing selects one. -/
def default : BuildTarget := .release

/-- A text with its ASCII capitals made small. -/
def lowered (s : String) : String := String.ofList (s.toList.map Char.toLower)

/-- The target of that exact name. -/
def ofName? (s : String) : Option BuildTarget :=
  if s = "debug" then some .debug else if s = "release" then some .release else none

/-- The target of that name, capitals or not. -/
def ofText? (s : String) : Option BuildTarget := ofName? (lowered s)

/-- What is said of a text that names no target. -/
def unknownMessage (s : String) : String := "unknown build target: " ++ lowered s

end BuildTarget

/-- The process that produced an output. -/
structure Producer where
  pid : Option Nat
  exitCode : Option Int
deriving DecidableEq

namespace Producer

/-- The producer of output that came from no process of this run. -/
def detached : Producer := ⟨none, none⟩

/-- A live process. -/
def live (pid : Nat) : Producer := ⟨some pid, none⟩

/-- The producer with its exit code set or cleared. -/
def withExitCode (p : Producer) (code : Option Int) : Producer := { p with exitCode := code }

end Producer

end Baseline
