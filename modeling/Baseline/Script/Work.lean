import Baseline.Script.Builtin

/-!
# Ways to work

A script does some of its work apart from itself, in a function, in a loop or with
other descriptors.  These are the frames around such work: what each keeps and what
it lets through.
-/

namespace Baseline.Script

namespace Act

/-! ### Frames -/

/-- Work of which only the files, what is open, and the status stay.  `finish` is done at the end of
the work. -/
def apart (finish a : Act Unit) : Act Unit := do
  let before ← get
  set { before with ending := none }
  a
  finish
  modify fun after => { before with
    files := after.files.startAt before.files.start
    openings := after.openings
    status := after.status
    patience := after.patience
    flow := if after.flow = .killed then .killed else before.flow }

/-- What work writes. -/
def captured (a : Act Unit) : Act (List Char) := do
  let before ← get
  let i := before.openings.size
  set (before.open_ 1 (.sink []))
  a
  let after ← get
  set { after with
    descriptors := before.descriptors
    openings := after.openings.setIfInBounds i .nothing }
  return after.written i

/-- Note that a command has gone badly, which ends a careful script unless the command was tried. -/
def checked (tried : Bool) : Act Unit := modify fun s =>
  if s.options.careful ∧ !tried ∧ s.status ≠ 0 ∧ s.flow = .on then { s with flow := .ended } else s

/-- Whether a loop goes on after a round. -/
def nextRound : Act Bool := do
  let s ← get
  match s.flow with
  | .on => return true
  | .leave n =>
    set { s with flow := if n ≤ 1 then .on else .leave (n - 1) }
    return false
  | .again n =>
    set { s with flow := if n ≤ 1 then .on else .again (n - 1) }
    return n ≤ 1
  | _ => return false

/-- Work inside one more loop. -/
def inLoop (a : Act Unit) : Act Unit := do
  let loops := (← get).loops
  modify fun s => { s with loops := loops + 1 }
  a
  modify fun s => { s with loops := loops }

/-- Work of a function with its own arguments. -/
def inFunction (arguments : List (List Char)) (a : Act Unit) : Act Unit := do
  let before ← get
  set { before with arguments, outside := some [], loops := 0 }
  a
  modify fun s =>
    let s := (s.outside.getD []).foldl (fun s (name, v) => s.setVariable name v) s
    { s with
      arguments := before.arguments
      outside := before.outside
      loops := before.loops
      flow := if s.flow = .back then .on else s.flow }

/-- Work with variables set that get back their values afterwards. -/
def withVariables (settings : List (List Char × List Char)) (a : Act Unit) : Act Unit := do
  let before ← get
  for (name, value) in settings do
    assign name value
    modify fun s => s.setVariable name
      ((s.bindings.lookup name).map fun v => { v with exported := true })
  if ← goesOn then a
  modify fun s => settings.foldl (fun s (name, _) =>
    s.setVariable name (before.bindings.lookup name)) s

/-! ### Descriptors -/

/-- Let a descriptor lead to what a path names; tells whether it can. -/
def openPath (descriptor : Nat) (kind : Redirection) (path : List Char) : Act Bool := fun s =>
  let is (t : String) : Bool := Builtin.isText path t
  let duplicate (n : Nat) : Bool × State :=
    match s.descriptors.lookup n with
    | some i => (true, { s with
        descriptors := (descriptor, i) :: s.descriptors.filter (·.1 != descriptor) })
    | none => (false, s)
  if is "/dev/null" then (true, s.open_ descriptor .nothing)
  else if is "/dev/stdin" then duplicate 0
  else if is "/dev/stdout" then duplicate 1
  else if is "/dev/stderr" then duplicate 2
  else if kind = .input then
    match s.files.locate (pathOf path) with
    | .ok (name :: above) =>
      if s.files.node? (name :: above) = some .directory then
        (true, s.open_ descriptor .nothing)
      else (true, s.open_ descriptor (.file above name 0 false))
    | .ok [] => (true, s.open_ descriptor .nothing)
    | .error _ => (false, s)
  else
    match s.files.openForWriting (pathOf path) with
    | .error _ => (false, s)
    | .ok (above, name) =>
      let loc := name :: above
      if kind = .output ∧ s.options.keeping ∧ (s.files.node? loc).isSome then (false, s)
      else
        let data := if kind = .output then [] else s.files.dataAt loc
        let files := s.files.setFile above name data (s.files.isExecutable loc)
        (true, { s with files }.open_ descriptor (.file above name 0 (kind = Redirection.append)))

/-- Let a descriptor lead where a word says: to another descriptor or nowhere. -/
def duplicate (descriptor : Nat) (word : List Char) : Act Bool := fun s =>
  let others := s.descriptors.filter (·.1 != descriptor)
  if word = ['-'] then (true, { s with descriptors := others })
  else if word ≠ [] ∧ word.all Char.isDigit then
    match s.descriptors.lookup (ofDigits 10 word) with
    | some i => (true, { s with descriptors := (descriptor, i) :: others })
    | none => (false, s)
  else (false, s)

end Act

end Baseline.Script
