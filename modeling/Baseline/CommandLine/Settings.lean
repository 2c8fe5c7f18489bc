import Baseline.Config

/-!
# Settings

The settings on a command line, and the configuration they make with that of a
file: what is on the command line wins.
-/

namespace Baseline.CommandLine

/-- The settings on a command line. -/
structure Settings where
  /-- The file that gives the settings that are not here. -/
  config : Option Path
  platform : Option String
  testsDir : Option Path
  outputDir : Option Path
  baselineDir : Option Path
  wordDiffTool : Option Path
  target : Option BuildTarget
  /-- The file that outcomes are recorded in. -/
  log : Option Path
deriving DecidableEq

namespace Settings

/-- A setting that has to come from somewhere. -/
def require {α : Type} (name : String) : Option α → Except ConfigError α
  | some a => .ok a
  | none => .error (.missing name)

/-- The configuration of the file, when one is named here or in the environment. -/
def base (s : Settings) (files : FileTree) (env : Environment) :
    Except ConfigError (Option Config) :=
  match s.config.or env.configPath? with
  | none => .ok none
  | some file => (Config.load files file).map some

/-- The settings over those of a configuration. -/
def onTopOf (s : Settings) (base : Option Config) : Except ConfigError Config := do
  let platform ← require "platform" (s.platform.or (base.map Config.platform))
  let testsDir ← require "layout_tests_dir" (s.testsDir.or (base.map Config.testsDir))
  let outputDir ← require "output_dir" (s.outputDir.or (base.map Config.outputDir))
  return {
    platform, testsDir, outputDir
    baselineDir := s.baselineDir.or (base.bind Config.baselineDir)
    wordDiffTool := s.wordDiffTool.or (base.bind Config.wordDiffTool)
    target := (s.target.or (base.map Config.target)).getD .default }

/-- The configuration that a command runs with. -/
def resolve (s : Settings) (files : FileTree) (env : Environment) : Except ConfigError Config := do
  s.onTopOf (← s.base files env)

end Settings

end Baseline.CommandLine
