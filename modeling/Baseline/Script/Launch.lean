import Baseline.Script.Program

/-!
# Starting programs

A file that may be run names the program that reads it on its first line.  `Launch.find`
follows those lines until a program of the system is reached.
-/

namespace Baseline.Script

/-- A program of the system, and its arguments. -/
structure Launch where
  program : List Char
  arguments : List (List Char)

namespace Launch

/-- How much of a file is looked at for its first line. -/
def lineLimit : Nat := 256

/-- Whether a character is a blank. -/
def isBlank (c : Char) : Bool := c == ' ' || c == '\t'

/-- The program that the first line of a file names, and the argument after it, when there is one.
-/
def firstLine? (data : Bytes) : Option (List Char × List (List Char)) :=
  match charsOf (data.take lineLimit) with
  | '#' :: '!' :: rest =>
    let line := (rest.takeWhile (· != '\n')).dropWhile isBlank
    let program := line.takeWhile fun c => !isBlank c
    let whole := rest.contains '\n' || data.length < lineLimit
    let after := (line.drop program.length).dropWhile isBlank
    let argument := (after.reverse.dropWhile isBlank).reverse
    if program = [] ∨ (!whole ∧ program.length = line.length) then none
    else some (program, if argument = [] then [] else [argument])
  | _ => none

/-- How many programs may name each other. -/
def depthLimit : Nat := 6

/-- The program that is run when a path is started, and its arguments: each file is put in front of
the arguments of the program that reads it. -/
def findWithin : Nat → FileTree → List Char → List (List Char) → Except Fault Launch
  | 0, _, _, _ => .error .tooManyLinks
  | bound + 1, files, path, arguments =>
    match Program.nameAt? path with
    | some program => .ok ⟨program, arguments⟩
    | none =>
      match files.locate (pathOf path) with
      | .error fault => .error ((Program.faultAt? path).getD fault)
      | .ok loc =>
        match files.node? loc with
        | some (.file data true) =>
          match firstLine? data with
          | some (program, argument) =>
            findWithin bound files program (argument ++ path :: arguments)
          | none => .error .notExecutableFormat
        | some _ => .error .accessDenied
        | none => .error .notFound

/-- The program that is run when a path is started, and its arguments. -/
def find (files : FileTree) (path : List Char) (arguments : List (List Char)) :
    Except Fault Launch :=
  findWithin depthLimit files path arguments

/-- The first of several paths that can be started.  One that may not be started is passed over, but
is the reason when none can. -/
def findFirst (files : FileTree) (arguments : List (List Char)) (reason : Fault) :
    List (List Char) → Except (Fault × List Char) Launch
  | [] => .error (reason, [])
  | path :: rest =>
    match find files path arguments with
    | .ok l => .ok l
    | .error fault =>
      if fault = .accessDenied then findFirst files arguments fault rest
      else if fault = .notFound ∨ fault = .notDirectory then findFirst files arguments reason rest
      else .error (fault, path)

end Launch

end Baseline.Script
