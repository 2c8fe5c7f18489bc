import Baseline.Fault.Number

/-!
# Faults

Why the system refused a file operation or could not start a program.  A fault
is a cause; `Fault.message` is its only wording, and `Fault.kind` sorts causes
the way callers branch on them.
-/

namespace Baseline

/-- Why an operation failed. -/
inductive Fault
  /-- The system's own error number. -/
  | system (number : Int)
  /-- A kind alone. -/
  | plain (kind : FaultKind)
  /-- A kind with a text. -/
  | described (kind : FaultKind) (text : String)
  /-- A path for a file operation holds a zero byte. -/
  | zeroByteInPath
  /-- The name of a program holds a zero byte. -/
  | zeroByteInProgram
  /-- A file read as text is not UTF-8. -/
  | notText
  /-- The source of a copy is not a regular file. -/
  | notRegular
  /-- A path that has to be written as text is not UTF-8. -/
  | pathNotText
deriving DecidableEq

namespace Fault

/-! ### The system's error numbers -/

/-- Nothing is at the path. -/
def notFound : Fault := .system 2
/-- The file is no program the system can start. -/
def notExecutableFormat : Fault := .system 8
/-- The file may not be started as a program. -/
def accessDenied : Fault := .system 13
/-- Something is at the path already. -/
def exists_ : Fault := .system 17
/-- A path goes on below something that is no directory. -/
def notDirectory : Fault := .system 20
/-- A file is asked for where a directory is. -/
def isDirectory : Fault := .system 21
/-- A name or a path is too long. -/
def nameTooLong : Fault := .system 36
/-- Too many programs name each other. -/
def tooManyLinks : Fault := .system 40

/-- The kind of a fault. -/
def kind : Fault → FaultKind
  | .system n => systemKind n
  | .plain k => k
  | .described k _ => k
  | .zeroByteInPath | .zeroByteInProgram | .notRegular => .invalidInput
  | .notText | .pathNotText => .invalidData

/-- The system's error number, when the fault came from the system. -/
def number? : Fault → Option Int
  | .system n => some n
  | _ => none

/-- The wording of a fault. -/
def message : Fault → String
  | .system n => s!"{systemText n} (os error {n})"
  | .plain k => k.message
  | .described _ text => text
  | .zeroByteInPath => "file name contained an unexpected NUL byte"
  | .zeroByteInProgram => "nul byte found in provided data"
  | .notText => "stream did not contain valid UTF-8"
  | .notRegular => "the source path is neither a regular file nor a symlink to a regular file"
  | .pathNotText => "path contains invalid UTF-8 characters"

end Fault

end Baseline
