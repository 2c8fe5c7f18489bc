import Baseline.Script.Condition
import Baseline.Script.Format
import Baseline.Script.State

/-!
# Commands that a script knows

Commands that work on the script itself: its variables, its arguments, its options, how
it goes on, and its input and output.  `Builtin.find?` finds them by name; those that run
other commands are not among them.
-/

namespace Baseline.Script.Builtin

/-- Whether a text is a given one. -/
def isText (a : List Char) (s : String) : Bool := a == s.toList

/-! ### Output -/

/-- The options in front of the words of an `echo` that reads escapes only when asked. -/
def echoOptions (newline escapes : Bool) : List (List Char) → Bool × Bool × List (List Char)
  | [] => (newline, escapes, [])
  | a :: rest =>
    match a with
    | '-' :: c :: cs =>
      if (c :: cs).all "neE".toList.contains then
        echoOptions (newline && !(c :: cs).contains 'n')
          ((c :: cs).foldl (fun e c => if c = 'e' then true else if c = 'E' then false else e)
            escapes) rest
      else (newline, escapes, a :: rest)
    | _ => (newline, escapes, a :: rest)

/-- Write words with blanks between them. -/
def echo (args : List (List Char)) : Act Unit := do
  let (newline, escapes, args) :=
    if (← get).readsEscapes then
      match args with
      | ['-', 'n'] :: rest => (false, true, rest)
      | args => (true, true, args)
    else echoOptions true false args
  let text := [' '].intercalate args
  let (text, ends) := if escapes then Format.echoed text else (text, false)
  Act.say (if newline && !ends then text ++ ['\n'] else text) 0

/-- Write words into a format. -/
def printf (args : List (List Char)) : Act Unit :=
  let fill (format : List Char) (args : List (List Char)) : Act Unit :=
    let (text, status) := Format.fill format args
    Act.say text status
  match args with
  | ['-', '-'] :: format :: args => fill format args
  | format :: args =>
    if format.head? = some '-' ∧ format ≠ ['-'] then Act.went 2 else fill format args
  | [] => Act.went 2

/-! ### Input -/

/-- The characters of a line, with whether they may divide it; how many characters of the input that
takes; and whether the line had an end. -/
def lineOf (raw : Bool) : List Char → List (Char × Bool) × Nat × Bool
  | [] => ([], 0, false)
  | '\\' :: c :: rest =>
    if raw then
      let (line, n, whole) := lineOf raw (c :: rest)
      (('\\', true) :: line, n + 1, whole)
    else if c = '\n' then
      let (line, n, whole) := lineOf raw rest
      (line, n + 2, whole)
    else
      let (line, n, whole) := lineOf raw rest
      ((c, false) :: line, n + 2, whole)
  | c :: rest =>
    if c = '\n' then ([], 1, true)
    else
      let (line, n, whole) := lineOf raw rest
      (if c = '\\' ∧ !raw ∨ c = '\x00' then (line, n + 1, whole)
        else ((c, true) :: line, n + 1, whole))

/-- What divides a line. -/
structure Dividing where
  dividers : List Char

namespace Dividing

/-- Whether a character divides. -/
def divides (d : Dividing) (x : Char × Bool) : Bool := x.2 && d.dividers.contains x.1

/-- Whether a character divides together with others like it. -/
def isBlank (d : Dividing) (x : Char × Bool) : Bool := d.divides x && isGap x.1

/-- What is left of a line after a field: without blanks, and without one other divider. -/
def afterField (d : Dividing) (line : List (Char × Bool)) : List (Char × Bool) :=
  match line.dropWhile d.isBlank with
  | x :: rest => if d.divides x then rest.dropWhile d.isBlank else x :: rest
  | [] => []

/-- The last field: all that is left, without the blanks at its end; a divider that nothing follows
does not belong to it. -/
def lastField (d : Dividing) (line : List (Char × Bool)) : List Char :=
  let field := line.takeWhile fun x => !d.divides x
  let text := if (d.afterField (line.drop field.length)).isEmpty then field
    else (line.reverse.dropWhile d.isBlank).reverse
  text.map Prod.fst

/-- The values of so many names. -/
def fields (d : Dividing) : Nat → List (Char × Bool) → List (List Char)
  | 0, _ => []
  | 1, line => [d.lastField (line.dropWhile d.isBlank)]
  | n + 2, line =>
    let line := line.dropWhile d.isBlank
    let field := line.takeWhile fun x => !d.divides x
    field.map Prod.fst :: d.fields (n + 1) (d.afterField (line.drop field.length))

end Dividing

/-- The options of `read`, and the names after them. -/
def readOptions (raw : Bool) : List (List Char) → Bool × List (List Char)
  | ['-', 'r'] :: rest => readOptions true rest
  | ['-', 'p'] :: _ :: rest => readOptions raw rest
  | ['-', '-'] :: rest => (raw, rest)
  | names => (raw, names)

/-- Read a line and give each name a field of it; it goes well unless the input ends first. -/
def read (args : List (List Char)) : Act Unit := do
  let (raw, names) := readOptions false args
  if names.isEmpty then Act.went 2
  else
    let s ← get
    let (line, count, whole) := lineOf raw (s.left 0)
    set (s.skip 0 count)
    Act.succeeds whole
    let values := Dividing.fields ⟨s.dividers⟩ names.length line
    for (name, value) in names.zip values do
      Act.assign name value

/-! ### Variables -/

/-- The name and the value of a word that sets a variable. -/
def setting (a : List Char) : List Char × Option (List Char) :=
  let name := a.takeWhile (· != '=')
  (name, if name.length < a.length then some (a.drop (name.length + 1)) else none)

/-- Set variables, and change them in another way. -/
def declare (change : Variable → Variable) (args : List (List Char)) : Act Unit := do
  Act.went 0
  for a in args do
    let (name, value) := setting a
    if !isName name then
      if name.head? ≠ some '-' then Act.fail
    else
      match value with
      | some value => Act.assign name value
      | none => pure ()
      if ← Act.goesOn then
        modify fun s => s.setVariable name
          (some (change ((s.bindings.lookup name).getD ⟨none, false, false⟩)))

/-- Forget variables and functions. -/
def unset (args : List (List Char)) : Act Unit := do
  Act.went 0
  let functions := args.head? = some ['-', 'f']
  for name in args.filter fun a => a.head? ≠ some '-' do
    let s ← get
    if functions then set { s with functions := s.functions.filter (·.1 != name) }
    else if (s.bindings.lookup name).any Variable.fixed then Act.fail
    else set (s.setVariable name none)

/-- Keep the values that variables have outside the function, and set them inside. -/
def local_ (args : List (List Char)) : Act Unit := do
  match (← get).outside with
  | none => Act.fail
  | some _ =>
    Act.went 0
    for a in args do
      let (name, value) := setting a
      modify fun s => { s with
        outside := s.outside.map fun kept =>
          if (kept.lookup name).isSome then kept else (name, s.bindings.lookup name) :: kept }
      match value with
      | some value => Act.assign name value
      | none => pure ()

/-! ### Arguments and options -/

/-- Drop arguments. -/
def shift (args : List (List Char)) : Act Unit := do
  let s ← get
  match integer? false (args.headD ['1']) with
  | some n =>
    if n < 0 ∨ s.arguments.length < n.toNat then Act.fail
    else set { s with arguments := s.arguments.drop n.toNat, status := 0 }
  | none => Act.fail

/-- Turn an option on or off. -/
def option (on : Bool) (o : Options) (c : Char) : Options :=
  if c = 'e' then { o with careful := on }
  else if c = 'u' then { o with strict := on }
  else if c = 'f' then { o with noPatterns := on }
  else if c = 'a' then { o with exporting := on }
  else if c = 'C' then { o with keeping := on }
  else if c = 'n' then { o with onlyReading := on }
  else o

/-- The letter of an option that is known by a name. -/
def optionLetter (name : List Char) : Option Char :=
  if isText name "errexit" then some 'e'
  else if isText name "nounset" then some 'u'
  else if isText name "noglob" then some 'f'
  else if isText name "allexport" then some 'a'
  else if isText name "noclobber" then some 'C'
  else if isText name "noexec" then some 'n'
  else if ["debug", "emacs", "ignoreeof", "interactive", "monitor", "nolog", "notify", "privileged",
    "stdin", "verbose", "vi", "xtrace"].any (isText name) then some 'x'
  else none

/-- The options in front, and the arguments after them when there are any; none when an option is
unknown. -/
def options? (o : Options) : List (List Char) → Option (Options × Option (List (List Char)))
  | [] => some (o, none)
  | a :: rest =>
    if isText a "--" then some (o, some rest)
    else if isText a "-" then some (o, if rest.isEmpty then none else some rest)
    else
      match a with
      | sign :: letters =>
        if sign = '-' ∨ sign = '+' then
          let known := letters.all "abefimnopsuvxCEIV".toList.contains
          if !known then none
          else
            let o := letters.foldl (option (sign = '-')) o
            if letters.contains 'o' then
              match rest with
              | name :: rest =>
                match optionLetter name with
                | some c => options? (option (sign = '-') o c) rest
                | none => none
              | [] => some (o, none)
            else options? o rest
        else some (o, some (a :: rest))
      | [] => some (o, some (a :: rest))

/-- Set options and arguments. -/
def set_ (args : List (List Char)) : Act Unit := do
  let s ← get
  match options? s.options args with
  | some (o, arguments) =>
    set { s with options := o, arguments := arguments.getD s.arguments, status := 0 }
  | none => Act.fail

/-- The options of `getopts` among words: the next option, its argument, and the place after it. 
The place is that of a word, counted from one, and of a letter in it. -/
def nextOption (known : List Char) (args : List (List Char)) (word letter : Nat) :
    Option (Char × Option (List Char) × Bool × Nat × Nat) :=
  match args[word - 1]? with
  | none => none
  | some a =>
    if letter ≤ 1 ∧ (a.length < 2 ∨ a.head? ≠ some '-' ∨ isText a "--") then none
    else
      let letter := max letter 1
      let c := a.getD letter ' '
      let rest := a.drop (letter + 1)
      let after : Nat × Nat := if rest.isEmpty then (word + 1, 1) else (word, letter + 1)
      match (known.dropWhile (· != c)) with
      | _ :: ':' :: _ =>
        if c = ':' then some ('?', some [c], false, after.1, after.2)
        else if !rest.isEmpty then some (c, some rest, true, word + 1, 1)
        else
          match args[word]? with
          | some value => some (c, some value, true, word + 2, 1)
          | none => some (':', some [c], false, word + 1, 1)
      | _ :: _ => some (c, none, true, after.1, after.2)
      | [] => some ('?', some [c], false, after.1, after.2)

/-- Name the next option among the arguments. -/
def getopts (args : List (List Char)) : Act Unit := do
  match args with
  | known :: name :: words =>
    let s ← get
    let words := if words.isEmpty then s.arguments else words
    let index := (((s.look "OPTIND".toList).bind (integer? false)).getD 1).toNat
    let (word, letter) := if s.optionPlace.1 = index then s.optionPlace else (index, 1)
    let quiet := known.head? = some ':'
    match nextOption known words (max word 1) letter with
    | none =>
      Act.assign "OPTIND".toList (digitsOf (max word 1))
      if isText (words.getD (max word 1 - 1) []) "--" then
        Act.assign "OPTIND".toList (digitsOf (max word 1 + 1))
      Act.assign name ['?']
      Act.went 1
    | some (c, value, sound, word, letter) =>
      modify fun s => { s with optionPlace := (word, letter) }
      Act.assign "OPTIND".toList (digitsOf word)
      Act.assign name [if sound ∨ quiet then c else '?']
      match if sound ∨ quiet then value else none with
      | some value => Act.assign "OPTARG".toList value
      | none => modify fun s => s.setVariable "OPTARG".toList none
      Act.went 0
  | _ => Act.went 2

/-! ### Places -/

/-- A place in writing. -/
def locationText (loc : Location) : List Char :=
  match loc with
  | [] => ['/']
  | loc => loc.reverse.flatMap fun name => '/' :: charsOf name

/-- Go to another directory. -/
def cd (args : List (List Char)) : Act Unit := do
  let s ← get
  let args := args.filter fun a => !isText a "--" && !isText a "-P" && !isText a "-L"
  let target : List Char := match args with
    | [] => (s.look "HOME".toList).getD []
    | a :: _ => if a = ['-'] then (s.look "OLDPWD".toList).getD [] else a
  match s.files.locate (pathOf (if target = [] then ['.'] else target)) with
  | .ok loc =>
    if s.files.node? loc = some .directory then
      Act.assign "OLDPWD".toList (locationText s.files.start)
      modify fun s => { s with files := s.files.startAt loc }
      Act.assign "PWD".toList (locationText loc)
      if args.head? = some ['-'] then Act.say (locationText loc ++ ['\n']) 0 else Act.went 0
    else Act.went 2
  | .error _ => Act.went 2

/-! ### Control -/

/-- The number that a command is given, or another one; none when it is no number. -/
def count? (args : List (List Char)) (standard : Nat) : Option Nat :=
  match args with
  | [] => some standard
  | a :: _ => (integer? false a).bind fun n => if n < 0 then none else some n.toNat

/-- Leave loops, or go on with their next round. -/
def leave (flow : Nat → Flow) (args : List (List Char)) : Act Unit := do
  let s ← get
  match count? args 1 with
  | some n =>
    if n = 0 then Act.fail
    else if s.loops = 0 then Act.went 0
    else set { s with flow := flow (min n s.loops), status := 0 }
  | none => Act.fail

/-- Leave a function or the script. -/
def finish (flow : Flow) (args : List (List Char)) : Act Unit := do
  let s ← get
  match count? args s.status with
  | some n => set { s with status := n % 256, flow }
  | none => Act.fail

/-- Send a signal; one that ends the script itself does. -/
def kill (args : List (List Char)) : Act Unit := do
  let (signal, targets) := match args with
    | ['-', 's'] :: name :: rest => (name, rest)
    | ('-' :: name) :: rest => (name, rest)
    | rest => ("TERM".toList, rest)
  let self := (← get).value? ['$']
  if isText signal "0" ∨ isText signal "CHLD" ∨ isText signal "l" then Act.went 0
  else if targets.any fun t => some t = self ∨ t = ['0'] then
    modify fun s => { s with status := 143, flow := .killed }
  else Act.went 1

/-- Say what is run at the end. -/
def trap (args : List (List Char)) : Act Unit := do
  Act.went 0
  match args.filter fun a => !isText a "--" with
  | action :: conditions =>
    if conditions.any fun c => isText c "EXIT" || isText c "0" then
      modify fun s => { s with ending := if action = ['-'] then none else some action }
  | [] => pure ()

/-- Whether a condition holds. -/
def test (isProgram : List Char → Bool) (args : List (List Char)) : Act Unit := do
  match Condition.holds? ⟨(← get).files, isProgram⟩ args with
  | some b => Act.succeeds b
  | none => Act.went 2

/-- The work of a command that a script knows. -/
def find? (isProgram : List Char → Bool) (name : List Char) :
    Option (List (List Char) → Act Unit) :=
  let is (s : String) : Bool := isText name s
  if is ":" || is "true" then some fun _ => Act.went 0
  else if is "false" then some fun _ => Act.went 1
  else if is "echo" then some echo
  else if is "printf" then some printf
  else if is "read" then some read
  else if is "test" then some (test isProgram)
  else if is "[" then some fun args =>
    if args.getLast? = some [']'] then test isProgram args.dropLast else Act.went 2
  else if is "export" then some (declare fun v => { v with exported := true })
  else if is "readonly" then some (declare fun v => { v with fixed := true })
  else if is "unset" then some unset
  else if is "local" then some local_
  else if is "shift" then some shift
  else if is "set" then some set_
  else if is "getopts" then some getopts
  else if is "cd" || is "chdir" then some cd
  else if is "pwd" then some fun _ => do
    Act.say (locationText (← get).files.start ++ ['\n']) 0
  else if is "break" then some (leave .leave)
  else if is "continue" then some (leave .again)
  else if is "return" then some (finish .back)
  else if is "exit" then some (finish .ended)
  else if is "kill" then some kill
  else if is "trap" then some trap
  else if is "umask" then some fun args =>
    if args.isEmpty then Act.say "0022\n".toList 0 else Act.went 0
  else if is "ulimit" then some fun _ => Act.say "unlimited\n".toList 0
  else if ["alias", "bg", "fg", "hash", "jobs", "times", "unalias", "wait"].any (isText name) then
    some fun _ => Act.went 0
  else none

end Baseline.Script.Builtin
