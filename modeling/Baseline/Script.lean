import Baseline.Script.Evaluation

/-!
# Scripts

The programs among the files are scripts, which a shell or another program of the system
reads.  `Script.start` runs one by its name: it answers what the script writes, or why
it cannot be started, and the files as the script leaves them.  How a script ends says
nothing about it; of one that cannot be read only the part before that is run.
-/

namespace Baseline.Script

/-- How deep and how long a script may run. -/
def depth : Nat := 100000

/-- How many commands a script may run. -/
def patience : Nat := 1000000

/-- A script that has not begun: its input is empty, and what it writes about faults is not kept. -/
def begin (files : FileTree) (settings : List (List Char × List Char)) : State where
  files
  bindings := settings.map fun (name, value) => (name, ⟨some value, true, false⟩)
  functions := []
  name := []
  arguments := []
  status := 0
  wordStatus := 0
  flow := .on
  descriptors := [(0, 0), (1, 1), (2, 2)]
  openings := #[.nothing, .sink [], .nothing]
  options := .none
  loops := 0
  outside := none
  optionPlace := (1, 1)
  ending := none
  readsEscapes := true
  patience

/-- What a program of the system writes, and the files as it leaves them. -/
def outputOf (files : FileTree) (settings : List (List Char × List Char)) (l : Launch) :
    Bytes × FileTree :=
  let s : State := ((launch depth l).run (begin files settings)).2
  (bytesOf (s.written 1), s.files.startAt files.start)

/-- What a program writes when it is run, or why it cannot be started, and the files after it.  A
name without a slash is looked for in the directories, which the program sees as its `PATH`. -/
def start (files : FileTree) (directories : List Path) (settings : List (String × String))
    (program : Path) (arguments : List String) : Except Fault Bytes × FileTree :=
  let arguments := arguments.map Utf8.encode
  let words := arguments.map charsOf
  let found : Except Fault Launch :=
    if (0 : UInt8) ∈ program.bytes ∨ arguments.any (fun a => a.contains 0) then
      .error .zeroByteInProgram
    else if program.bytes = [] then .error .notFound
    else if slash ∈ program.bytes then Launch.find files (charsOf program.bytes) words
    else if FileTree.longestName < program.bytes.length then .error .nameTooLong
    else
      match Launch.findFirst files words .notFound
        (directories.map fun d => charsOf (d.join program).bytes) with
      | .ok l => .ok l
      | .error (fault, _) => .error fault
  match found with
  | .error fault => (.error fault, files)
  | .ok l =>
    let path := [':'].intercalate (directories.map fun d => charsOf d.bytes)
    let settings := ("PATH".toList, path) ::
      settings.map fun (name, value) => (name.toList, charsOf (Utf8.encode value))
    let (output, files) := outputOf files settings l
    (.ok output, files)

end Baseline.Script
