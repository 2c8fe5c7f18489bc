import Baseline.BuildTarget
import Baseline.Checkout
import Baseline.Decimal.Shortest
import Baseline.Mismatch
import Baseline.Toml.Document

/-!
# Configurations

The settings of a run, and how they are read from a document.  A document is
read whole before any setting is looked at.  Then its keys are taken in the order of
their names: a key that is no setting, or a value of the wrong type, is refused
where it stands.  Settings that are missing are noticed last.
-/

namespace Baseline

/-- The settings of a run. -/
structure Config where
  /-- Selects the directory of baselines. -/
  platform : String
  testsDir : Path
  /-- Receives artifacts. -/
  outputDir : Path
  baselineDir : Option Path
  wordDiffTool : Option Path
  target : BuildTarget
deriving DecidableEq

namespace Config

/-- The configuration that sets what has to be set and nothing else. -/
def ofDirectories (platform : String) (testsDir outputDir : Path) : Config :=
  ⟨platform, testsDir, outputDir, none, none, .default⟩

/-- Where tests and baselines are. -/
def checkout (c : Config) : Checkout where
  testsDir := c.testsDir
  baselineDir := c.baselineDir.getD (Checkout.ofDirectory c.testsDir).baselineDir
  wordDiffTool := c.wordDiffTool

end Config

/-- Why a value is not a setting. -/
inductive Unfit
  | mismatch (m : Mismatch)
  /-- A whole number that is written wrongly, or has too many digits for any use. -/
  | integerOverflow
  /-- A number that is larger than all doubles. -/
  | floatOverflow
  /-- A choice is neither a name nor a table. -/
  | noChoice
  /-- The table of a choice is empty. -/
  | emptyChoice
  /-- The table of a choice holds several names. -/
  | manyChoices
  /-- The name of a choice holds an array that is not empty. -/
  | choiceWithElements
  /-- The name of a choice holds a table that is not empty. -/
  | choiceWithEntries
  /-- The name of a choice holds something else. -/
  | choiceWithValue (kind : String)
deriving DecidableEq

/-- The wording of why a value is not a setting. -/
def Unfit.message : Unfit → String
  | .mismatch m => m.message
  | .integerOverflow => "integer number overflowed"
  | .floatOverflow => "floating-point number overflowed"
  | .noChoice => "wanted string or table"
  | .emptyChoice => "wanted exactly 1 element, found 0 elements"
  | .manyChoices => "wanted exactly 1 element, more than 1 element"
  | .choiceWithElements => "expected empty array"
  | .choiceWithEntries => "expected empty table"
  | .choiceWithValue kind => "expected table, found " ++ kind

/-- Why there is no configuration. -/
inductive ConfigError
  | unreadable (file : Path) (fault : Fault)
  /-- The document is not written as documents are. -/
  | flawed (file : Path) (source : List Char) (flaw : Toml.Flaw)
  /-- The document, and the place in it that does not fit. -/
  | unfit (file : Path) (source : List Char) (place : Toml.Span) (why : Unfit)
  /-- Neither flags nor file give a setting. -/
  | missing (setting : String)

namespace ConfigError

/-- The wording of what is wrong below the file's name. -/
def cause : ConfigError → Option String
  | .unreadable _ fault => some fault.message
  | .flawed _ source flaw => some (flaw.message source)
  | .unfit _ source place why =>
    some (Toml.Excerpt.render source place ++ why.message ++ "\n")
  | .missing _ => none

/-- The wording of an error. -/
def message (e : ConfigError) : String :=
  let cause := e.cause.getD ""
  match e with
  | .unreadable file _ => "Failed to read config " ++ file.text ++ ": " ++ cause
  | .flawed file .. | .unfit file .. => "Invalid config " ++ file.text ++ ": " ++ cause
  | .missing setting => "Missing required setting: " ++ setting

end ConfigError

namespace Config

/-! ### Reading -/

/-- Why a table is no configuration: what does not fit, and where. -/
abbrev Misfit := Toml.Span × Unfit

/-- The names of the settings. -/
def settings : List String :=
  ["platform", "layout_tests_dir", "output_dir", "baseline_dir", "word_diff_tool", "target"]

/-- The names of the targets. -/
def targets : List String := ["debug", "release"]

/-- What is said of a whole number that is found where something else is expected: one that fits
no machine word is named with its size, and one that fits no double word is refused. -/
def foundInteger (n : Int) : Except Unfit Found :=
  if -(Nat.pow 2 63 : Int) ≤ n ∧ n < Nat.pow 2 64 then .ok (.integer n)
  else if -(Nat.pow 2 127 : Int) ≤ n ∧ n < Nat.pow 2 127 then .ok (.wideInteger n true)
  else if 0 ≤ n ∧ n < Nat.pow 2 128 then .ok (.wideInteger n false)
  else .error .integerOverflow

/-- What is said of a value that is found where something else is expected. -/
def found : Toml.Value → Except Unfit Found
  | .scalar (.text s) => .ok (.string s)
  | .scalar (.boolean b) => .ok (.boolean b)
  | .scalar (.integer (some n)) => foundInteger n
  | .scalar (.integer none) => .error .integerOverflow
  | .scalar (.fraction f) =>
    match f.double? with
    | some d => .ok (.float (Decimal.Style.plain.text d))
    | none => .error .floatOverflow
  | .scalar (.infinite negative) => .ok (.float (Decimal.Style.plain.text (.infinite negative)))
  | .scalar .notANumber => .ok (.float (Decimal.Style.plain.text .notANumber))
  | .scalar .moment | .table .. => .ok .map
  | .array .. | .tables .. => .ok .sequence

/-- A text; `expected` says what for. -/
def textAt (expected : String) (e : Toml.Entry Toml.Value) : Except Misfit String :=
  match e.value with
  | .scalar (.text s) => .ok s
  | v =>
    match found v with
    | .ok found => .error (e.valueSpan, .mismatch (.invalidType found expected))
    | .error why => .error (e.valueSpan, why)

/-- A path. -/
def pathAt (e : Toml.Entry Toml.Value) : Except Misfit Path :=
  (textAt "path string" e).map .ofString

/-- Check that a value is a table or an array with nothing in it. -/
def checkVacant : Toml.Value → Except Unfit Unit
  | .table _ [] | .array [] => .ok ()
  | .table .. => .error .choiceWithEntries
  | .array _ | .tables _ => .error .choiceWithElements
  | v => .error (.choiceWithValue v.kind)

/-- A build target: its name, or a table that holds its name with nothing under it. -/
def targetAt (e : Toml.Entry Toml.Value) : Except Misfit BuildTarget :=
  let named (name : String) (place : Toml.Span) : Except Misfit BuildTarget :=
    match BuildTarget.ofName? name with
    | some t => .ok t
    | none => .error (place, .mismatch (.unknownVariant name targets))
  match e.value with
  | .scalar (.text s) => named s e.valueSpan
  | .table _ [] => .error (e.valueSpan, .emptyChoice)
  | .table _ [inner] => do
    let t ← named inner.name inner.keySpan
    match checkVacant inner.value with
    | .ok () => return t
    | .error why => .error (inner.valueSpan, why)
  | .table .. => .error (e.valueSpan, .manyChoices)
  | _ => .error (e.valueSpan, .noChoice)

/-- Settings that have been read. -/
structure Draft where
  platform : Option String
  testsDir : Option Path
  outputDir : Option Path
  baselineDir : Option Path
  wordDiffTool : Option Path
  target : Option BuildTarget

/-- Take one key of the document. -/
def Draft.take (d : Draft) (e : Toml.Entry Toml.Value) : Except Misfit Draft :=
  if e.name = "platform" then do return { d with platform := ← textAt "a string" e }
  else if e.name = "layout_tests_dir" then do return { d with testsDir := ← pathAt e }
  else if e.name = "output_dir" then do return { d with outputDir := ← pathAt e }
  else if e.name = "baseline_dir" then do return { d with baselineDir := ← pathAt e }
  else if e.name = "word_diff_tool" then do return { d with wordDiffTool := ← pathAt e }
  else if e.name = "target" then do return { d with target := ← targetAt e }
  else .error (e.keySpan, .mismatch (.unknownField e.name settings))

/-- A setting that has to be there. -/
def require {α : Type} (name : String) : Option α → Except Misfit α
  | some a => .ok a
  | none => .error (.before 0, .mismatch (.missingField name))

/-- The configuration in a table. -/
def ofEntries (es : Toml.Entries) : Except Misfit Config := do
  let sorted := es.mergeSort fun a b => decide (a.name ≤ b.name)
  let d ← sorted.foldlM Draft.take ⟨none, none, none, none, none, none⟩
  let platform ← require "platform" d.platform
  let testsDir ← require "layout_tests_dir" d.testsDir
  let outputDir ← require "output_dir" d.outputDir
  return ⟨platform, testsDir, outputDir, d.baselineDir, d.wordDiffTool, d.target.getD .default⟩

/-- The configuration that a text writes; `file` says where it comes from. -/
def parse (file : Path) (source : List Char) : Except ConfigError Config :=
  match Toml.readDocument source with
  | .error flaw => .error (.flawed file source flaw)
  | .ok es =>
    match ofEntries es with
    | .ok c => .ok c
    | .error (place, why) => .error (.unfit file source place why)

/-- The configuration in a file. -/
def load (files : FileTree) (file : Path) : Except ConfigError Config :=
  match files.readFile file with
  | .error fault => .error (.unreadable file fault)
  | .ok data =>
    match Utf8.decode? data with
    | some s => parse file s.toList
    | none => .error (.unreadable file .notText)

end Config

end Baseline
