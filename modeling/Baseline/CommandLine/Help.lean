import Baseline.CommandLine.Argument
import Baseline.Comparison

/-!
# Help

What is said of the program, of a command, or of the word that asks for help: what
it is for, how it is called, and what may stand on its command line.

Two columns show what may be written and what it means.  Where the second column
would start too far to the right for its texts, each text goes below what it is
about.  Help in detail always puts it there, and says what each value means where an
argument takes one of a few.
-/

namespace Baseline.CommandLine

/-- The name of the program. -/
def programName : String := "layout-results"

/-- What help is about. -/
inductive Topic
  | program
  | command (c : Command)
  /-- The word that asks for help in the place of a command. -/
  | help
deriving DecidableEq

namespace Topic

/-- The word that asks for help in the place of a command. -/
def helpName : String := "help"

/-- What a word in the place of a command names. -/
def ofName? (s : Bytes) : Option Topic :=
  if s = Utf8.encode helpName then some .help else (Command.ofName? s).map .command

/-- What it is for. -/
def purpose : Topic → String
  | .program => "Compare layout test output against baselines and write result artifacts"
  | .command .compare => "Compare a test's output with its baseline"
  | .command .rebaseline => "Promote a test's output to be its new platform baseline"
  | .help => "Print this message or the help of the given subcommand(s)"

/-- The options in the order in which they are listed: the one that every command takes is the
second of a command. -/
def options : Topic → List Argument
  | .program => Argument.beforeCommand
  | .command c =>
    match Argument.afterCommand c with
    | [] => []
    | first :: others => first :: .verbose :: others.filter (· ≠ .verbose)
  | .help => []

/-- How it is called. -/
def usage (t : Topic) : String :=
  let words := match t with
    | .program => ["[OPTIONS]", "<COMMAND>"]
    | .command c =>
      let named := (Argument.required c).filter (· ≠ .test)
      [c.name, "[OPTIONS]"] ++ named.map Argument.shown ++ [Argument.shown .test]
    | .help => [helpName, "[COMMAND]..."]
  "Usage: " ++ " ".intercalate (programName :: words)

/-- Whether help in detail says more than help in brief. -/
def hasMore (t : Topic) : Bool := t.options.any fun a => a.form = .engine

end Topic

/-- How much help says. -/
inductive Detail
  | brief
  | full
deriving DecidableEq

/-- What an engine compares. -/
def engineMeaning : Engine → String
  | .text => "Exact text comparison against -expected.txt"
  | .checksum => "Image checksum comparison against -expected.checksum"

/-- What the argument that asks for help does. -/
def helpMeaning (t : Topic) (d : Detail) : String :=
  if t.hasMore then
    match d with
    | .brief => "Print help (see more with '--help')"
    | .full => "Print help (see a summary with '-h')"
  else "Print help"

namespace Argument

/-- What an argument means. -/
def meaning (t : Topic) (d : Detail) : Argument → String
  | .test => "Test file, inside the layout-tests directory"
  | .actual =>
    if t = .command .rebaseline then "File to promote" else "File holding the test's text output"
  | .engine => "Comparison engine"
  | .checksum => "Checksum reported by the driver for the rendered image"
  | .image => "Rendered image produced by the test"
  | .wordDiff => "Also write word-level HTML diffs"
  | .showSources => "Report which baseline files were used"
  | .newBaseline => "Save the output as the new baseline instead of comparing"
  | .suffix => "Baseline extension, e.g. \".txt\" or \".png\""
  | .config => "TOML run configuration (default: $LAYOUT_RESULTS_CONFIG)"
  | .platform => "Platform whose baselines are used"
  | .testsDir => "Root of the layout-tests checkout"
  | .outputDir => "Directory receiving result artifacts"
  | .baselineDir => "Root of platform baseline directories"
  | .wordDiffTool => "Word-diff executable"
  | .target => "Driver build configuration"
  | .log => "Append results to this JSONL file"
  | .verbose => "Log debug detail to stderr (overridden by RUST_LOG)"
  | .help => helpMeaning t d
  | .version => "Print version"

/-- The value that stands for an argument that is not given. -/
def default? : Argument → Option String
  | .engine => some Engine.text.name
  | .suffix => some defaultSuffix
  | _ => none

/-- The few values that an argument takes, each with its meaning. -/
def values (a : Argument) : List (String × String) :=
  if a.form = .engine then [Engine.text, .checksum].map fun e => (e.name, engineMeaning e) else []

/-- An argument with its letter, or with room for one. -/
def spelling (a : Argument) : String :=
  if a = .test then a.shown
  else
    match a.letter? with
    | some c => String.ofList ['-', c, ',', ' '] ++ a.shown
    | none => "    " ++ a.shown

end Argument

/-- Something that may be written, and what help says of it. -/
structure Entry where
  spelling : String
  meaning : String
  default? : Option String
  values : List (String × String)

namespace Entry

/-- An entry that has only a meaning. -/
def plain (spelling meaning : String) : Entry := ⟨spelling, meaning, none, []⟩

/-- The entry of an argument. -/
def ofArgument (t : Topic) (d : Detail) (a : Argument) : Entry :=
  ⟨a.spelling, a.meaning t d, a.default?, a.values⟩

/-- The note on the value that stands for one that is not given. -/
def defaultNote (value : String) : String := "[default: " ++ value ++ "]"

/-- What is said of an entry on one line. -/
def line (e : Entry) : String :=
  let values :=
    if e.values.isEmpty then []
    else ["[possible values: " ++ ", ".intercalate (e.values.map Prod.fst) ++ "]"]
  " ".intercalate ([e.meaning] ++ e.default?.toList.map defaultNote ++ values)

/-- The start of a line below an entry. -/
def indent : String := "          "

/-- A text with blanks behind it, up to a width. -/
def padded (width : Nat) (s : String) : String :=
  s ++ String.ofList (.replicate (width - s.length) ' ')

/-- The widest of some texts. -/
def width (ss : List String) : Nat := ss.foldl (fun n s => max n s.length) 0

/-- What is said of an entry in detail. -/
def lines (e : Entry) : List String :=
  let column := width (e.values.map Prod.fst) + 2
  let values :=
    if e.values.isEmpty then []
    else
      ["", indent ++ "Possible values:"] ++
        e.values.map fun (v, m) => indent ++ "- " ++ padded column (v ++ ":") ++ m
  let default := e.default?.toList.flatMap fun v => [indent, indent ++ defaultNote v]
  [indent ++ e.meaning] ++ values ++ default

/-- The width of a page. -/
def pageWidth : Nat := 100

/-- Whether texts have no room in a second column: it would start beyond two fifths of the page,
and one of them would not end on it. -/
def crowded (es : List Entry) : Bool :=
  let taken := width (es.map spelling) + 8
  5 * taken > 2 * pageWidth && es.any fun e => e.line.length > pageWidth - taken

/-- Entries below each other. -/
def listing (d : Detail) (es : List Entry) : List String :=
  match d with
  | .full => ((es.map fun e => ("  " ++ e.spelling) :: e.lines).intersperse [""]).flatten
  | .brief =>
    if crowded es then es.flatMap fun e => ["  " ++ e.spelling, indent ++ e.line]
    else
      let column := width (es.map spelling) + 2
      es.map fun e => "  " ++ padded column e.spelling ++ e.line

end Entry

namespace Topic

/-- What may be written, under heads. -/
def sections (t : Topic) (d : Detail) : List (String × List Entry) :=
  let options := ("Options:", t.options.map (Entry.ofArgument t d))
  match t with
  | .program =>
    let named (name : String) (t : Topic) := Entry.plain name t.purpose
    let commands := Command.all.map (fun c => named c.name (.command c)) ++ [named helpName .help]
    [("Commands:", commands), options]
  | .command _ => [("Arguments:", [Entry.ofArgument t d .test]), options]
  | .help => [("Arguments:", [Entry.plain "[COMMAND]..." "Print help for the subcommand(s)"])]

/-- The lines of help. -/
def helpLines (t : Topic) (d : Detail) : List String :=
  let d := if t.hasMore then d else .brief
  [t.purpose, "", t.usage] ++
    (t.sections d).flatMap fun (head, es) => ["", head] ++ Entry.listing d es

/-- What help says. -/
def helpText (t : Topic) (d : Detail) : String := "\n".intercalate (t.helpLines d)

end Topic

end Baseline.CommandLine
