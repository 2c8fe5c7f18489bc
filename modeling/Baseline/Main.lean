import Baseline.CommandLine

/-!
# The program

Reads the files that a command line is about, carries it out, and writes back what
has changed.
-/

namespace Baseline.Program

/-- A byte string as the system hands it over. -/
def ofByteArray (b : ByteArray) : Bytes := b.toList

/-- A byte string as the system takes it. -/
def toByteArray (b : Bytes) : ByteArray := ⟨b.toArray⟩

/-- The location of an absolute path. -/
def locationOf (p : String) : Location := (Path.ofString p).names.reverse

/-- The path of a location. -/
def pathOf (loc : Location) : String := "/" ++ (Path.ofNames loc.reverse).text

/-- The tree with the directories of a location, the outermost first. -/
def withDirectories (t : FileTree) : Location → FileTree
  | [] => t
  | name :: above => (withDirectories t above).addDirectory above name

/-- Take a directory or a file of the system, and what is below it down to a depth, into the tree.
The system does not tell which files may be run, so all count as programs. -/
def load : (depth : Nat) → Location → FileTree → IO FileTree
  | 0, _, t => return t
  | depth + 1, loc, t => do
    let path := pathOf loc
    match ← (IO.FS.Handle.mk path .read).toBaseIO with
    | .error _ => return t
    | .ok _ =>
      match ← (IO.FS.readBinFile path).toBaseIO, loc with
      | .ok data, name :: above =>
        let t := withDirectories t above
        return t.setFile above name (ofByteArray data) true
      | _, _ =>
        let mut t := withDirectories t loc
        let real ← IO.FS.realPath path
        match ← real.readDir.toBaseIO with
        | .error _ => return t
        | .ok entries =>
          for e in entries do
            t ← load depth (Utf8.encode e.fileName :: loc) t
          return t

/-- The moment at which a file is made. -/
def currentTime : IO Timestamp := do
  let (_, file) ← IO.FS.createTempFile
  let modified := (← file.metadata).modified
  IO.FS.removeFile file
  return .ofSeconds modified.sec modified.nsec.toNat

/-- How deep directories are looked into. -/
def depthLimit : Nat := 64

/-- Write what differs between two trees. -/
def store (before after : FileTree) : IO Unit := do
  for (loc, node) in after.entries.reverse do
    if before.node? loc != some node then
      match node with
      | .directory => IO.FS.createDirAll (pathOf loc)
      | .file data _ => IO.FS.writeBinFile (pathOf loc) (toByteArray data)

/-- The paths that a command line and its configuration name. -/
def namedPaths (i : CommandLine.Invocation) (c : Option Config) : List Path :=
  let test := match i.task with
    | .compare test actual _ request => [some test, actual, request.image]
    | .rebaseline test actual _ => [some test, some actual]
  let s := i.settings
  let configured := match c with
    | some c => [some c.testsDir, some c.outputDir, c.baselineDir, c.wordDiffTool]
    | none => []
  (test ++ configured ++ [s.config, s.testsDir, s.outputDir, s.baselineDir, s.wordDiffTool, s.log])
    |>.filterMap id

end Baseline.Program

open Baseline Baseline.Program in
/-- Carry out the command line of the process. -/
def main (args : List String) : IO UInt32 := do
  let here := locationOf (← IO.currentDir).toString
  let env : Environment := ⟨← IO.getEnv Environment.configName,
    ← IO.getEnv Environment.wordDiffToolName, ← IO.getEnv Environment.logLevelName, .endless⟩
  let directories := (((← IO.getEnv "PATH").getD "").splitOn ":").map Path.ofString
  let args := args.map Utf8.encode
  let begun := (withDirectories FileTree.empty here).startAt here
  let absolute (p : Path) : Location :=
    if p.isAbsolute then p.names.reverse else p.names.reverse ++ here
  let mut files := begun
  match CommandLine.Invocation.parse args with
  | .error _ => pure ()
  | .ok i =>
    for p in (i.settings.config.or env.configPath?).toList do
      files ← load depthLimit (absolute p) files
    let c := (i.settings.resolve files env).toOption
    for p in namedPaths i c do
      files ← load depthLimit (absolute p) files
  let outcome := CommandLine.run args files env (.programs directories) (← currentTime)
  store files outcome.files
  (← IO.getStdout).write (toByteArray outcome.output)
  IO.eprint outcome.errors
  return outcome.code.toUInt32
