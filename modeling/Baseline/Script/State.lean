import Baseline.Script.Command
import Baseline.Script.Field
import Baseline.Script.Number

/-!
# A script at work

A script works on a `State`: its variables, its arguments, where its descriptors lead and
the files.  An `Act` is a piece of its work.

A descriptor leads to an opening.  Descriptors that lead to the same opening share the
place that has been reached in it, and so do the commands that a script runs apart
from itself.
-/

namespace Baseline.Script

/-- A variable. -/
structure Variable where
  value : Option (List Char)
  /-- Programs that the script runs see it. -/
  exported : Bool
  /-- It may not be set again. -/
  fixed : Bool

/-- How a script goes on. -/
inductive Flow
  | on
  /-- Leave this many loops. -/
  | leave (loops : Nat)
  /-- Leave loops but this one, which goes on with its next round. -/
  | again (loops : Nat)
  /-- Leave the function. -/
  | back
  | ended
  /-- End at once, whatever the script wants to run at its end. -/
  | killed
deriving DecidableEq

/-- What a descriptor leads to. -/
inductive Opening
  | nothing
  /-- A text of which this much is left to read. -/
  | source (left : List Char)
  /-- What was written, the last character first. -/
  | sink (written : List Char)
  /-- A file, and the place that has been reached in it. -/
  | file (above : Location) (name : Name) (place : Nat) (atEnd : Bool)

/-- The options of a script. -/
structure Options where
  /-- A command that goes badly ends the script. -/
  careful : Bool
  /-- A parameter without a value ends the script. -/
  strict : Bool
  /-- Fields are never patterns. -/
  noPatterns : Bool
  /-- Variables that are set are exported. -/
  exporting : Bool
  /-- Redirections leave files alone that hold something. -/
  keeping : Bool
  /-- Commands are read but not run. -/
  onlyReading : Bool

/-- No option is on. -/
def Options.none : Options := ⟨false, false, false, false, false, false⟩

/-- A script at work. -/
structure State where
  files : FileTree
  bindings : List (List Char × Variable)
  functions : List (List Char × Command)
  name : List Char
  arguments : List (List Char)
  /-- How the last command went; zero is well. -/
  status : Nat
  /-- How the last command went whose output was put into a word of this command. -/
  wordStatus : Nat
  flow : Flow
  descriptors : List (Nat × Nat)
  openings : Array Opening
  options : Options
  /-- How many loops are around. -/
  loops : Nat
  /-- The values that variables have outside the function, when one is run. -/
  outside : Option (List (List Char × Option Variable))
  /-- The word and the letter that `getopts` looks at next. -/
  optionPlace : Nat × Nat
  /-- What is run at the end. -/
  ending : Option (List Char)
  /-- Whether `echo` reads escapes without being asked. -/
  readsEscapes : Bool
  /-- How many more commands are run. -/
  patience : Nat

/-- A piece of work. -/
abbrev Act (α : Type) := StateM State α

namespace State

/-! ### Variables -/

/-- The value of a variable. -/
def look (s : State) (name : List Char) : Option (List Char) :=
  (s.bindings.lookup name).bind Variable.value

/-- Put a variable in place of another of its name. -/
def setVariable (s : State) (name : List Char) (v : Option Variable) : State :=
  let others := s.bindings.filter (·.1 != name)
  { s with bindings := match v with
      | some v => (name, v) :: others
      | none => others }

/-- Set the value of a variable, which may be fixed. -/
def assign? (s : State) (name value : List Char) : Option State :=
  let v := (s.bindings.lookup name).getD ⟨none, false, false⟩
  if v.fixed then none
  else some (s.setVariable name (some
    { v with value := some value, exported := v.exported || s.options.exporting }))

/-- The characters that divide words. -/
def dividers (s : State) : List Char := (s.look "IFS".toList).getD standardDividers

/-- What stands between arguments that are written together. -/
def joint (s : State) : List Char :=
  match s.look "IFS".toList with
  | none => [' ']
  | some ifs => ifs.take 1

/-- The value of a parameter. -/
def value? (s : State) (name : List Char) : Option (List Char) :=
  match name with
  | ['#'] => some (Nat.toDigits 10 s.arguments.length)
  | ['?'] => some (Nat.toDigits 10 s.status)
  | ['0'] => some s.name
  | ['@'] | ['*'] => if s.arguments = [] then none else some (s.joint.intercalate s.arguments)
  | ['$'] => some ['1']
  | ['!'] => none
  | ['-'] =>
    let o := s.options
    some ((if o.careful then ['e'] else []) ++ (if o.noPatterns then ['f'] else []) ++
      (if o.strict then ['u'] else []) ++ (if o.exporting then ['a'] else []))
  | name =>
    if name.all Char.isDigit then
      match ofDigits 10 name with
      | 0 => some s.name
      | n + 1 => s.arguments[n]?
    else s.look name

/-! ### Descriptors -/

/-- What a descriptor leads to. -/
def opening? (s : State) (descriptor : Nat) : Option (Nat × Opening) := do
  let i ← s.descriptors.lookup descriptor
  let o ← s.openings[i]?
  return (i, o)

/-- Change an opening. -/
def setOpening (s : State) (i : Nat) (o : Opening) : State :=
  { s with openings := s.openings.setIfInBounds i o }

/-- What was written to an opening. -/
def written (s : State) (i : Nat) : List Char :=
  match s.openings[i]? with
  | some (.sink written) => written.reverse
  | _ => []

/-- Let a descriptor lead to a new opening. -/
def open_ (s : State) (descriptor : Nat) (o : Opening) : State :=
  { s with
    openings := s.openings.push o
    descriptors := (descriptor, s.openings.size) :: s.descriptors.filter (·.1 != descriptor) }

/-- What is left to read at a descriptor. -/
def left (s : State) (descriptor : Nat) : List Char :=
  match s.opening? descriptor with
  | some (_, .source left) => left
  | some (_, .file above name place _) => (charsOf (s.files.dataAt (name :: above))).drop place
  | _ => []

/-- Go on at a descriptor. -/
def skip (s : State) (descriptor count : Nat) : State :=
  match s.opening? descriptor with
  | some (i, .source left) => s.setOpening i (.source (left.drop count))
  | some (i, .file above name place atEnd) =>
    s.setOpening i (.file above name (place + count) atEnd)
  | _ => s

/-- A content with some bytes replaced from a place on. -/
def overwrite (data : Bytes) (place : Nat) (text : Bytes) : Bytes :=
  data.take place ++ List.replicate (place - data.length) 0 ++ text ++
    data.drop (place + text.length)

/-- Write at a descriptor; tells whether it could be written to. -/
def put (s : State) (descriptor : Nat) (text : List Char) : Bool × State :=
  match s.opening? descriptor with
  | some (i, .sink written) => (true, s.setOpening i (.sink (text.reverseAux written)))
  | some (_, .nothing) => (true, s)
  | some (i, .file above name place atEnd) =>
    let loc := name :: above
    let data := s.files.dataAt loc
    let place := if atEnd then data.length else place
    let files := if (s.files.node? loc).isSome then
        s.files.setFile above name (overwrite data place (bytesOf text)) (s.files.isExecutable loc)
      else s.files
    (true, { s with files }.setOpening i (.file above name (place + text.length) atEnd))
  | _ => (false, s)

end State

/-! ### Work -/

namespace Act

/-- Note how a command went. -/
def went (status : Nat) : Act Unit := modify fun s => { s with status }

/-- Note whether a command went well. -/
def succeeds (b : Bool) : Act Unit := went (if b then 0 else 1)

/-- End the script, which went badly. -/
def fail : Act Unit := modify fun s => { s with status := 2, flow := .ended }

/-- Set a variable; a fixed one ends the script. -/
def assign (name value : List Char) : Act Unit := do
  match (← get).assign? name value with
  | some s => set s
  | none => fail

/-- Write to the output; tells whether that could be done. -/
def write (text : List Char) : Act Bool := fun s => s.put 1 text

/-- Write to the output and note how that went. -/
def say (text : List Char) (status : Nat) : Act Unit := do
  if ← write text then went status else went (max status 1)

/-- Whether nothing ends the list of commands that is being run. -/
def goesOn : Act Bool := do return (← get).flow = .on

/-- Work with some descriptors changed, which lead back afterwards. -/
def keepingDescriptors {α : Type} (a : Act α) : Act α := do
  let before := (← get).descriptors
  let x ← a
  modify fun s => { s with descriptors := before }
  return x

end Act

end Baseline.Script
