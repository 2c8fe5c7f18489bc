import Baseline.CommandLine.Settings

/-!
# The settings of a command line

A command line that names a file of settings, or is run where the environment names one, takes
from it what it does not set itself; the file of its own option comes before that of the
environment (`Settings.Named`, `Settings.Base`).  What is required has to be in one of
the two (`Settings.Over`).

A command line comes to a configuration exactly when there is one that these make
(`Settings.resolve_eq_ok`), and there is one at most (`Settings.Resolved.unique`).
-/

namespace Baseline.CommandLine.Settings

/-- The file that a command line takes settings from, if any: that of its option, else that of the
environment, where an empty name is none. -/
inductive Named (s : Settings) (env : Environment) : Option Path → Prop
  | option {file : Path} (h : s.config = some file) : Named s env (some file)
  | environment {name : String} (h : s.config = none) (hname : env.config = some name)
    (hne : name ≠ "") : Named s env (some (Path.ofString name))
  | unset (h : s.config = none) (hname : env.config = none) : Named s env none
  | empty (h : s.config = none) (hname : env.config = some "") : Named s env none

/-- What that file holds: nothing exactly when no file is named, else what is loaded from it. -/
inductive Base (s : Settings) (files : FileTree) (env : Environment) : Option Config → Prop
  | unnamed (h : s.Named env none) : Base s files env none
  | loaded {file : Path} {base : Config} (h : s.Named env (some file))
    (hload : Config.load files file = .ok base) : Base s files env (some base)

/-- The settings of a command line over those of a file: a setting of the file counts where the
command line has none. -/
structure Over (s : Settings) (base : Option Config) (c : Config) : Prop where
  platform : s.platform.or (base.map Config.platform) = some c.platform
  testsDir : s.testsDir.or (base.map Config.testsDir) = some c.testsDir
  outputDir : s.outputDir.or (base.map Config.outputDir) = some c.outputDir
  baselineDir : s.baselineDir.or (base.bind Config.baselineDir) = c.baselineDir
  wordDiffTool : s.wordDiffTool.or (base.bind Config.wordDiffTool) = c.wordDiffTool
  target : (s.target.or (base.map Config.target)).getD .default = c.target

/-- The configuration that a command line and the file it takes settings from make. -/
def Resolved (s : Settings) (files : FileTree) (env : Environment) (c : Config) : Prop :=
  ∃ base, s.Base files env base ∧ s.Over base c

variable {s : Settings} {files : FileTree} {env : Environment} {c : Config}

theorem named_iff {file : Option Path} :
    s.Named env file ↔ s.config.or env.configPath? = file := by
  constructor
  · intro h
    cases h with
    | option h => rw [h, Option.some_or]
    | environment h hname hne =>
      rw [h, Option.none_or, Environment.configPath?, hname, Environment.pathOf?, if_neg hne]
    | unset h hname => rw [h, Option.none_or, Environment.configPath?, hname, Environment.pathOf?]
    | empty h hname =>
      rw [h, Option.none_or, Environment.configPath?, hname, Environment.pathOf?, if_pos rfl]
  · rintro rfl
    cases hconfig : s.config with
    | some file => exact .option hconfig
    | none =>
      rw [Option.none_or, Environment.configPath?]
      cases hname : env.config with
      | none => exact .unset hconfig hname
      | some name =>
        rw [Environment.pathOf?]
        split
        · rename_i hempty
          exact .empty hconfig (hempty ▸ hname)
        · rename_i hne
          exact .environment hconfig hname hne

theorem base_eq_ok {base : Option Config} :
    s.base files env = .ok base ↔ s.Base files env base := by
  unfold Settings.base
  constructor
  · intro h
    cases hfile : s.config.or env.configPath? with
    | none =>
      rw [hfile] at h
      obtain rfl : none = base := Except.ok.inj h
      exact .unnamed (named_iff.mpr hfile)
    | some file =>
      rw [hfile] at h
      cases hload : Config.load files file with
      | error e => simp [hload, Except.map] at h
      | ok loaded =>
        obtain rfl : some loaded = base := by simpa [hload, Except.map] using h
        exact .loaded (named_iff.mpr hfile) hload
  · intro h
    cases h with
    | unnamed h => rw [named_iff.mp h]
    | loaded h hload =>
      rw [named_iff.mp h]
      simp [hload, Except.map]

/-- **Settings are put together** when those that have to be there are there. -/
theorem onTopOf_eq_ok {base : Option Config} : s.onTopOf base = .ok c ↔ s.Over base c := by
  obtain ⟨platform, testsDir, outputDir, baselineDir, wordDiffTool, target⟩ := c
  unfold onTopOf
  constructor
  · intro h
    cases hp : s.platform.or (base.map Config.platform) with
    | none => simp [hp, require, bind, Except.bind] at h
    | some p =>
      cases ht : s.testsDir.or (base.map Config.testsDir) with
      | none => simp [hp, ht, require, bind, Except.bind] at h
      | some t =>
        cases ho : s.outputDir.or (base.map Config.outputDir) with
        | none => simp [hp, ht, ho, require, bind, Except.bind] at h
        | some o =>
          simp only [hp, ht, ho, require, bind, Except.bind, pure, Except.pure, Except.ok.injEq,
            Config.mk.injEq] at h
          obtain ⟨rfl, rfl, rfl, rfl, rfl, rfl⟩ := h
          exact ⟨hp, ht, ho, rfl, rfl, rfl⟩
  · rintro ⟨hp, ht, ho, rfl, rfl, rfl⟩
    simp only [hp, ht, ho, require]
    rfl

/-- **What a command line resolves to** is what its options and the file make, the options first. -/
theorem resolve_eq_ok : s.resolve files env = .ok c ↔ s.Resolved files env c := by
  unfold resolve Resolved
  simp only [← base_eq_ok, ← onTopOf_eq_ok]
  cases s.base files env with
  | error e => simp [bind, Except.bind]
  | ok base => simp [bind, Except.bind]

theorem Resolved.unique {c' : Config} (h : s.Resolved files env c) (h' : s.Resolved files env c') :
    c = c' := Except.ok.inj ((resolve_eq_ok.mpr h).symm.trans (resolve_eq_ok.mpr h'))

end Baseline.CommandLine.Settings
