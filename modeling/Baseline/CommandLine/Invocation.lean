import Baseline.CommandLine.Settings
import Baseline.CommandLine.Stop
import Baseline.Comparison.Request

/-!
# Invocations

What a command line asks for.  Its arguments are taken from left to right.  An
option's value is looked at only when the next argument has been recognised, so
an argument that is not known is complained about before a bad value in front of
it.  After `--` no argument is an option.
-/

namespace Baseline.CommandLine

/-- What is asked for. -/
inductive Task
  /-- Compare a test's output with its baseline. -/
  | compare (test : Path) (actual : Option Path) (engine : Engine) (request : Request)
  /-- Make a file the baseline of a test. -/
  | rebaseline (test actual : Path) (suffix : String)
deriving DecidableEq

/-- What a command line asks for. -/
structure Invocation where
  verbose : Bool
  task : Task
  settings : Settings
deriving DecidableEq

/-- Arguments that have been read, and one whose value is still to be looked at. -/
structure Reading where
  given : List (Argument × Bytes)
  pending : Option (Argument × Option Bytes)

namespace Reading

/-- Nothing has been read. -/
def start : Reading := ⟨[], none⟩

/-- The value of an argument that was given. -/
def value? (r : Reading) (a : Argument) : Option Bytes := r.given.lookup a

/-- Whether an argument was given. -/
def has (r : Reading) (a : Argument) : Bool := (r.value? a).isSome

/-- Whether an argument was given, its value looked at or not. -/
def mentions (r : Reading) (a : Argument) : Bool :=
  r.has a || r.pending.any (·.1 = a)

/-- Look at a value. -/
def check (a : Argument) (v : Bytes) : Except Stop Unit :=
  match a.form with
  | .switch => .ok ()
  | .path => if v = [] then .error (.missingValue a) else .ok ()
  | .text =>
    match Utf8.decode? v with
    | some _ => .ok ()
    | none => .error .notText
  | .engine =>
    let s := Utf8.decodeLossy v
    if (Engine.ofName? s).isSome then .ok ()
    else if s = "" then .error (.missingValue a)
    else .error (.invalidValue s a none)
  | .target =>
    match Utf8.decode? v with
    | none => .error .notText
    | some s =>
      if (BuildTarget.ofText? s).isSome then .ok ()
      else .error (.invalidValue s a (some (BuildTarget.unknownMessage s)))

/-- Take an argument with its value. -/
def accept (r : Reading) (a : Argument) (v : Bytes) : Except Stop Reading :=
  if r.has a then .error (.repeated a)
  else do
    check a v
    return { r with given := r.given ++ [(a, v)] }

/-- Look at the value that is still to be looked at. -/
def settle (r : Reading) : Except Stop Reading :=
  match r.pending with
  | none => .ok r
  | some (a, none) => .error (.missingValue a)
  | some (a, some v) => accept { r with pending := none } a v

/-- Take an argument that has no value.  Help is in detail when its name asks for it, and in brief
when its letter does. -/
def acceptSwitch (about : Topic) (d : Detail) (r : Reading) (a : Argument) :
    Except Stop Reading :=
  match a with
  | .help => .error (.help about d)
  | .version => .error .version
  | a => r.accept a []

/-- Take an argument that starts with two dashes. -/
def takeLong (about : Topic) (r : Reading) (arg : Bytes) : Except Stop Reading :=
  let body := arg.drop 2
  let name := body.takeWhile (· != 61)
  let value := if name.length < body.length then some (body.drop (name.length + 1)) else none
  match about.options.find? fun a => Utf8.encode a.name == name with
  | none => .error (.unexpected ("--" ++ Utf8.decodeLossy name))
  | some a =>
    match a.form, value with
    | .switch, some v => .error (.unexpectedValue (Utf8.decodeLossy v) a)
    | .switch, none => do acceptSwitch about .full (← r.settle) a
    | _, some v => do (← r.settle).accept a v
    | _, none => do return { ← r.settle with pending := some (a, none) }

/-- Take letters after a dash; a byte sequence that is no text ends them. -/
def takeLetters (about : Topic) (r : Reading) : List (Option Char) → Except Stop Reading
  | [] => .ok r
  | none :: rest =>
    .error (.unexpected (String.ofList ('-' :: '\ufffd' :: rest.map fun c => c.getD '\ufffd')))
  | some c :: rest =>
    match about.options.find? fun a => a.letter? = some c with
    | none => .error (.unexpected (String.ofList ['-', c]))
    | some a => do takeLetters about (← acceptSwitch about .brief (← r.settle) a) rest

/-- Take an argument that is the test. -/
def takeTest (r : Reading) (arg : Bytes) : Except Stop Reading :=
  if r.mentions .test then .error (.unexpected (Utf8.decodeLossy arg))
  else do return { ← r.settle with pending := some (.test, some arg) }

/-- The byte of a dash. -/
def dash : UInt8 := 45

/-- Take an argument that starts with a dash, unless it is a dash alone. -/
def takeOption? (about : Topic) (r : Reading) (arg : Bytes) :
    Option (Except Stop Reading) :=
  match arg with
  | a :: b :: rest =>
    if a = dash ∧ b = dash then some (takeLong about r (a :: b :: rest))
    else if a = dash then some (takeLetters about r (Utf8.pieces none (b :: rest)))
    else none
  | _ => none

/-- Take the arguments of a command. -/
def takeAll (about : Topic) (r : Reading) (onlyTests : Bool) :
    List Bytes → Except Stop Reading
  | [] => r.settle
  | arg :: rest =>
    if onlyTests then do takeAll about (← r.takeTest arg) true rest
    else if arg = [dash, dash] then takeAll about r true rest
    else
      match takeOption? about r arg with
      | some step => do takeAll about (← step) false rest
      | none =>
        match r.pending with
        | some (a, none) => takeAll about { r with pending := some (a, some arg) } false rest
        | _ => do takeAll about (← r.takeTest arg) false rest

/-- What comes of a word that asks for help, given the words after it: the names of the command that
help is wanted for. -/
def helpAbout : List Bytes → Stop
  | [] => .help .program .full
  | name :: rest =>
    match Topic.ofName? name, rest with
    | none, _ => .unknownCommand (Utf8.decodeLossy name)
    | some about, [] => .help about .full
    | some _, next :: _ => .unknownCommand (Utf8.decodeLossy next)

/-- Take the arguments in front of the command: what they are, the command, and the arguments after
it. -/
def takeCommand (r : Reading) (onlyTests : Bool) :
    List Bytes → Except Stop (Reading × Command × List Bytes)
  | [] => if r.given.isEmpty then .error .nothing else .error .noCommand
  | arg :: rest =>
    if onlyTests then
      if (Topic.ofName? arg).isSome then .error (.unexpected (Utf8.decodeLossy arg))
      else .error (.unknownCommand (Utf8.decodeLossy arg))
    else
      match Topic.ofName? arg with
      | some (.command c) => .ok (r, c, rest)
      | some _ => .error (helpAbout rest)
      | none =>
        if arg = [dash, dash] then r.takeCommand true rest
        else
          match takeOption? .program r arg with
          | some step => do (← step).takeCommand false rest
          | none => .error (.unknownCommand (Utf8.decodeLossy arg))

/-! ### What was read -/

/-- The path that was given for an argument. -/
def path? (r : Reading) (a : Argument) : Option Path := (r.value? a).map Path.mk

/-- The text that was given for an argument. -/
def text? (r : Reading) (a : Argument) : Option String := (r.value? a).map Utf8.decodeLossy

/-- The settings that were given. -/
def settings (r : Reading) : Settings where
  config := r.path? .config
  platform := r.text? .platform
  testsDir := r.path? .testsDir
  outputDir := r.path? .outputDir
  baselineDir := r.path? .baselineDir
  wordDiffTool := r.path? .wordDiffTool
  target := (r.text? .target).bind BuildTarget.ofText?
  log := r.path? .log

/-- The wishes that were given. -/
def request (r : Reading) : Request where
  newBaseline := r.has .newBaseline
  image := r.path? .image
  checksum := r.text? .checksum
  wordDiff := r.has .wordDiff
  showSources := r.has .showSources

/-- The task that was given; none when an argument is missing. -/
def task? (r : Reading) (c : Command) : Option Task :=
  match c with
  | .compare => do
    let test ← r.path? .test
    let engine := ((r.text? .engine).bind Engine.ofName?).getD .text
    return .compare test (r.path? .actual) engine r.request
  | .rebaseline => do
    let test ← r.path? .test
    let actual ← r.path? .actual
    return .rebaseline test actual ((r.text? .suffix).getD Argument.defaultSuffix)

end Reading

/-- What a command line asks for. -/
def Invocation.parse (args : List Bytes) : Except Stop Invocation := do
  let (before, c, rest) ← Reading.start.takeCommand false args
  let after ← Reading.start.takeAll (.command c) false rest
  match after.task? c with
  | some task => return ⟨before.has .verbose || after.has .verbose, task, after.settings⟩
  | none => .error .missingArguments

end Baseline.CommandLine
