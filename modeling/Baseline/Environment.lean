import Baseline.Device
import Baseline.Path

/-!
# The environment

What a run finds around it: the values of its variables, and the device that its log is
on.  A variable that is set to the empty text says nothing.
-/

namespace Baseline

/-- The variables that a run reads, and the device of its log. -/
structure Environment where
  /-- The configuration file. -/
  config : Option String
  /-- The word-diff tool. -/
  wordDiffTool : Option String
  /-- How much is reported on the error stream. -/
  logLevel : Option String
  /-- What takes the lines of the log. -/
  logDevice : Device

namespace Environment

/-- The variable that names the configuration file. -/
def configName : String := "LAYOUT_RESULTS_CONFIG"

/-- The variable that names the word-diff tool. -/
def wordDiffToolName : String := "LAYOUT_RESULTS_WDIFF"

/-- The variable that says how much is reported. -/
def logLevelName : String := "RUST_LOG"

/-- The environment that sets nothing and limits nothing. -/
def empty : Environment := ⟨none, none, none, .endless⟩

/-- The path that a variable holds. -/
def pathOf? (value : Option String) : Option Path :=
  match value with
  | some s => if s = "" then none else some (Path.ofString s)
  | none => none

/-- The configuration file named by the environment. -/
def configPath? (e : Environment) : Option Path := pathOf? e.config

/-- The word-diff tool named by the environment. -/
def toolPath? (e : Environment) : Option Path := pathOf? e.wordDiffTool

/-- The variables that are set, by their names. -/
def settings (e : Environment) : List (String × String) :=
  [(configName, e.config), (wordDiffToolName, e.wordDiffTool), (logLevelName, e.logLevel)].filterMap
    fun (name, value) => value.map fun v => (name, v)

end Environment

end Baseline
