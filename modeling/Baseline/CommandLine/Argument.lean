import Baseline.Bytes
import Baseline.Text.Utf8

/-!
# Arguments

The commands and the arguments that each of them takes.
-/

namespace Baseline.CommandLine

/-- What can be done. -/
inductive Command
  | compare
  | rebaseline
deriving DecidableEq

namespace Command

/-- The name of a command. -/
def name : Command → String
  | .compare => "compare"
  | .rebaseline => "rebaseline"

/-- The commands. -/
def all : List Command := [.compare, .rebaseline]

/-- The command of that exact name. -/
def ofName? (s : Bytes) : Option Command := all.find? fun c => Utf8.encode c.name == s

end Command

/-- An argument of a command line. -/
inductive Argument
  | test
  | actual
  | engine
  | checksum
  | image
  | wordDiff
  | showSources
  | newBaseline
  | suffix
  | config
  | platform
  | testsDir
  | outputDir
  | baselineDir
  | wordDiffTool
  | target
  | log
  | verbose
  | help
  | version
deriving DecidableEq

/-- What values an argument takes. -/
inductive Form
  /-- None. -/
  | switch
  /-- A path, which is not empty. -/
  | path
  | text
  | engine
  | target
deriving DecidableEq

namespace Argument

/-- The name of an argument; that of a test is for show only. -/
def name : Argument → String
  | .test => "test"
  | .actual => "actual"
  | .engine => "engine"
  | .checksum => "hash"
  | .image => "image"
  | .wordDiff => "wdiff"
  | .showSources => "show-sources"
  | .newBaseline => "new-baseline"
  | .suffix => "suffix"
  | .config => "config"
  | .platform => "platform"
  | .testsDir => "layout-tests"
  | .outputDir => "output-dir"
  | .baselineDir => "baseline-dir"
  | .wordDiffTool => "wdiff-path"
  | .target => "target"
  | .log => "results-log"
  | .verbose => "verbose"
  | .help => "help"
  | .version => "version"

/-- What values an argument takes. -/
def form : Argument → Form
  | .wordDiff | .showSources | .newBaseline | .verbose | .help | .version => .switch
  | .checksum | .suffix | .platform => .text
  | .engine => .engine
  | .target => .target
  | .test | .actual | .image | .config | .testsDir | .outputDir | .baselineDir | .wordDiffTool
  | .log => .path

/-- The letter of an argument. -/
def letter? : Argument → Option Char
  | .verbose => some 'v'
  | .help => some 'h'
  | .version => some 'V'
  | _ => none

/-- The name of an argument's value. -/
def valueName (a : Argument) : String :=
  String.ofList (a.name.toList.map fun c => if c = '-' then '_' else c.toUpper)

/-- An argument as it is shown. -/
def shown (a : Argument) : String :=
  if a = .test then "<TEST>"
  else if a.form = .switch then "--" ++ a.name
  else "--" ++ a.name ++ " <" ++ a.valueName ++ ">"

/-- The arguments by name that come before a command. -/
def beforeCommand : List Argument := [.verbose, .help, .version]

/-- The settings that every command takes. -/
def settings : List Argument :=
  [.config, .platform, .testsDir, .outputDir, .baselineDir, .wordDiffTool, .target, .log]

/-- The arguments by name that come after a command. -/
def afterCommand : Command → List Argument
  | .compare =>
    [.actual, .engine, .checksum, .image, .wordDiff, .showSources, .newBaseline] ++ settings ++
      [.verbose, .help]
  | .rebaseline => [.actual, .suffix] ++ settings ++ [.verbose, .help]

/-- The arguments that a command cannot do without. -/
def required : Command → List Argument
  | .compare => [.test]
  | .rebaseline => [.test, .actual]

/-- The suffix of a baseline when none is given. -/
def defaultSuffix : String := ".txt"

end Argument

end Baseline.CommandLine
