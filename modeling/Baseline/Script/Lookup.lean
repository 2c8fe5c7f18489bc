import Baseline.Script.Launch
import Baseline.Script.Work

/-!
# Finding commands

Where the program of a name is looked for, what a name stands for, and how a shell and
`env` read their own arguments.
-/

namespace Baseline.Script

/-- The paths at which a program may be, by its name. -/
def pathsOf (s : State) (name : List Char) : List (List Char) :=
  if name.contains '/' then [name]
  else
    let path := (s.look "PATH".toList).getD []
    let dirs := path.foldr (fun c parts =>
      if c = ':' then [] :: parts
      else
        match parts with
        | part :: rest => (c :: part) :: rest
        | [] => [[c]]) [[]]
    dirs.map fun dir => if dir = [] then name else dir ++ '/' :: name

/-- Whether something may be run at a path. -/
def isThere (s : State) (path : List Char) : Bool :=
  Program.isProgram path ||
    (match s.files.at? (pathOf path) with
      | some (.file _ executable) => executable
      | _ => false)

/-- Words that are no names of commands. -/
def reserved : List String := [
  "if", "then", "else", "elif", "fi", "while", "until", "do", "done", "for", "case", "esac", "in",
  "!", "\x7b", "\x7d"]

/-- Commands that run other commands. -/
def runners : List String := ["eval", ".", "exec", "command", "type"]

/-- Whether a script knows a command by itself. -/
def isKnown (name : List Char) : Bool :=
  runners.any (Builtin.isText name) || (Builtin.find? Program.isProgram name).isSome

/-- How `command -v` shows a name. -/
def shownCommand? (s : State) (name : List Char) : Option (List Char) :=
  if reserved.any (Builtin.isText name) ∨ isKnown name ∨ (s.functions.lookup name).isSome then
    some name
  else (pathsOf s name).find? (isThere s)

/-- How `type` shows a name. -/
def shownType (s : State) (name : List Char) : List Char × Bool :=
  let say (t : String) : List Char × Bool := (name ++ t.toList, true)
  if reserved.any (Builtin.isText name) then say " is a shell keyword"
  else if (s.functions.lookup name).isSome then say " is a shell function"
  else if isSpecial name then say " is a special shell builtin"
  else if isKnown name then say " is a shell builtin"
  else
    match (pathsOf s name).find? (isThere s) with
    | some path => (name ++ " is ".toList ++ path, true)
    | none => (name ++ ": not found".toList, false)

/-- Show what names are. -/
def showTypes (names : List (List Char)) : Act Unit := do
  let rows := names.map (shownType (← get))
  let all := rows.all Prod.snd
  Act.say (rows.flatMap fun (t, _) => t ++ ['\n']) (if all then 0 else 127)

/-- The state of a shell that a script starts: it sees what is exported. -/
def fresh (s : State) : State := { s with
  bindings := s.bindings.filter fun (_, v) => v.exported
  functions := []
  status := 0
  flow := .on
  options := .none
  loops := 0
  outside := none
  optionPlace := (1, 1)
  ending := none }

/-- The options of a shell, whether it is given its commands, and what follows; none when an
option is unknown. -/
def shellArguments? (o : Options) (given : Bool) :
    List (List Char) → Option (Options × Bool × List (List Char))
  | [] => some (o, given, [])
  | a :: rest =>
    match a with
    | sign :: letters =>
      if Builtin.isText a "-" ∨ Builtin.isText a "--" then some (o, given, rest)
      else if sign = '-' ∧ letters.head? = some '-' then none
      else if sign = '-' ∨ sign = '+' then
        let others := letters.filter fun c => c != 'c' && c != 'l'
        let given := given || letters.contains 'c'
        if others.contains 'o' then
          match rest with
          | name :: rest =>
            match Builtin.options? o [sign :: others, name] with
            | some (o, _) => shellArguments? o given rest
            | none => none
          | [] => none
        else
          match Builtin.options? o (if others.isEmpty then [] else [sign :: others]) with
          | some (o, _) => shellArguments? o given rest
          | none => none
      else some (o, given, a :: rest)
    | [] => some (o, given, a :: rest)

/-- A text divided at blanks. -/
def blankWords (s : List Char) : List (List Char) :=
  (divide standardDividers [] .open_ (Glyph.ofText false true s)).map Glyph.text

/-- What the words of `env` leave to be run, and the state with the variables that they set. -/
def inEnvironmentWithin : Nat → State → List (List Char) → State × List (List Char)
  | 0, s, words => (s, words)
  | bound + 1, s, words =>
    match words with
    | ['-', 'i'] :: rest | ['-'] :: rest =>
      inEnvironmentWithin bound { s with bindings := [] } rest
    | ['-', 'u'] :: name :: rest => inEnvironmentWithin bound (s.setVariable name none) rest
    | ('-' :: 'S' :: line) :: rest => inEnvironmentWithin bound s (blankWords line ++ rest)
    | ['-', '-'] :: rest => inEnvironmentWithin bound s rest
    | a :: rest =>
      match Builtin.setting a with
      | (name, some value) =>
        inEnvironmentWithin bound (s.setVariable name (some ⟨some value, true, false⟩)) rest
      | (_, none) => (s, a :: rest)
    | [] => (s, [])

/-- What the words of `env` leave to be run, and the state with the variables that they set. -/
def inEnvironment (s : State) (words : List (List Char)) : State × List (List Char) :=
  inEnvironmentWithin (words.foldl (fun n w => n + w.length + 1) 1) s words

/-- The exported variables with their values. -/
def shownEnvironment (s : State) : List Char :=
  let exported := s.bindings.reverse.filter fun (_, v) => v.exported
  exported.flatMap fun (name, v) =>
    match v.value with
    | some value => name ++ '=' :: value ++ ['\n']
    | none => []

end Baseline.Script
