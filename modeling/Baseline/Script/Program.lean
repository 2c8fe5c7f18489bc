import Baseline.Script.Builtin

/-!
# Programs of the system

The small programs that scripts call by their full paths.  They read files and their
input, write to their output and change files; what they would write about faults is
not kept, so only their status tells of those.
-/

namespace Baseline.Script.Program

/-- The shells. -/
def shells : List String := ["sh", "dash", "bash"]

/-- The programs of the system. -/
def names : List String := shells ++ [
  "[", "basename", "cat", "chmod", "cp", "dirname", "echo", "env", "false", "head", "mkdir", "mv",
  "printf", "pwd", "rm", "rmdir", "seq", "sleep", "sort", "tail", "tee", "test", "touch", "tr",
  "true", "uniq", "wc"]

/-- The directories that hold them. -/
def directories : List String := ["/bin/", "/usr/bin/"]

/-- The name of the program at a path. -/
def nameAt? (path : List Char) : Option (List Char) :=
  let path := Pattern.cutFront [.one '/', .one '/'] false path
  (directories.find? fun d => d.toList.isPrefixOf path).bind fun d =>
    let name := path.drop d.length
    if names.any fun n => n.toList == name then some name else none

/-- Why a path of the system that names no program cannot be started, when it is known: it names a
directory, or goes on below a program. -/
def faultAt? (path : List Char) : Option Fault :=
  if ["/bin", "/usr", "/usr/bin", "/dev", "/etc", "/tmp"].any fun d =>
      d.toList == path || (d ++ "/").toList == path then some .accessDenied
  else if (List.range path.length).any fun n =>
      path[n]? == some '/' && (nameAt? (path.take n)).isSome then some .notDirectory
  else none

/-- Whether a path names a program of the system. -/
def isProgram (path : List Char) : Bool := (nameAt? path).isSome

/-! ### Options -/

/-- Options with their values, and operands; none when an option is unknown or lacks its value.  The
first argument bounds the number of steps. -/
def arguments? (plain valued : List Char) :
    Nat → List (List Char) → Option (List (Char × List Char) × List (List Char))
  | 0, _ => none
  | _ + 1, [] => some ([], [])
  | bound + 1, a :: rest =>
    let option (c : Char) (value : List Char) (rest : List (List Char)) :=
      (arguments? plain valued bound rest).map fun (os, xs) => ((c, value) :: os, xs)
    match a with
    | ['-', '-'] => some ([], rest)
    | '-' :: '-' :: _ => none
    | '-' :: c :: cs =>
      if plain.contains c then option c [] (if cs.isEmpty then rest else ('-' :: cs) :: rest)
      else if valued.contains c then
        match cs, rest with
        | [], value :: rest => option c value rest
        | [], [] => none
        | cs, rest => option c cs rest
      else none
    | a => (arguments? plain valued bound rest).map fun (os, xs) => (os, a :: xs)

/-- Do work with options and operands, or go badly when an option is unknown. -/
def withArguments (plain valued : String) (args : List (List Char))
    (work : (Char → Option (List Char)) → List (List Char) → Act Unit) : Act Unit :=
  let letters := args.foldl (fun n a => n + a.length + 1) 1
  match arguments? plain.toList valued.toList letters args with
  | some (os, xs) => work (fun c => List.lookup c os.reverse) xs
  | none => Act.went 1

/-! ### Texts -/

/-- All that is left of the input. -/
def input : Act (List Char) := do
  let s ← get
  let text := s.left 0
  set (s.skip 0 text.length)
  return text

/-- The content of a file, or the input. -/
def contentOf? (name : List Char) : Act (Option (List Char)) := do
  if name = ['-'] ∨ Builtin.isText name "/dev/stdin" then return some (← input)
  if Builtin.isText name "/dev/null" then return some []
  match (← get).files.readFile (pathOf name) with
  | .ok data => return some (charsOf data)
  | .error _ => return none

/-- Work with the content of each file, or with the input when there are none; going badly when a
file cannot be read. -/
def onEach (names : List (List Char)) (work : List Char → List Char → Act Unit) : Act Unit := do
  Act.went 0
  let mut status := 0
  for name in if names.isEmpty then [['-']] else names do
    match ← contentOf? name with
    | some text =>
      work name text
      status := max status (← get).status
    | none => status := 1
  Act.went status

/-- The contents of all files, or the input; and whether all could be read. -/
def allOf (names : List (List Char)) : Act (List Char × Bool) := do
  let mut texts := []
  let mut sound := true
  for name in if names.isEmpty then [['-']] else names do
    match ← contentOf? name with
    | some text => texts := text :: texts
    | none => sound := false
  return (texts.reverse.flatten, sound)

/-- The lines of a text, each with its end when it has one. -/
def linesOf (s : List Char) : List (List Char) :=
  let (line, lines) := s.foldr (fun c (line, lines) =>
    if c = '\n' then ([c], if line.isEmpty then lines else line :: lines)
    else (c :: line, lines)) ([], [])
  if line.isEmpty then lines else line :: lines

/-- A number of at least a width. -/
def padded (width : Nat) (n : Nat) : List Char :=
  let ds := Nat.toDigits 10 n
  List.replicate (width - ds.length) ' ' ++ ds

/-! ### Programs that write texts -/

/-- A character that is written with signs in place of what is not printed. -/
def visible (c : Char) : List Char :=
  let low (n : Nat) : List Char :=
    if n < 32 then ['^', Char.ofNat (n + 64)] else if n = 127 then ['^', '?'] else [Char.ofNat n]
  if c = '\n' ∨ c = '\t' then [c]
  else if c.toNat < 128 then low c.toNat
  else 'M' :: '-' :: low (c.toNat - 128)

/-- Lines as `cat` shows them. -/
def shown (o : Char → Bool) (text : List Char) : List Char :=
  let step (state : Nat × Bool × List (List Char)) (line : List Char) :
      Nat × Bool × List (List Char) :=
    let (n, wasEmpty, done) := state
    let isEmpty := line == ['\n']
    if o 's' ∧ wasEmpty ∧ isEmpty then (n, true, done)
    else
      let numbered := if o 'b' then !isEmpty else o 'n'
      let front := if numbered then padded 6 n ++ ['\t'] else []
      let line := if o 'v' then line.flatMap visible else line
      let line := if o 'T' then line.flatMap fun c => if c = '\t' then ['^', 'I'] else [c] else line
      let line := if o 'E' then line.flatMap fun c => if c = '\n' then ['$', c] else [c] else line
      (if numbered then n + 1 else n, isEmpty, (front ++ line) :: done)
  ((linesOf text).foldl step (1, false, [])).2.2.reverse.flatten

/-- Write files one after the other. -/
def cat (args : List (List Char)) : Act Unit :=
  withArguments "AbeEnstTuv" "" args fun option names => do
    let (text, sound) ← allOf names
    let given (c : Char) : Bool := (option c).isSome
    let o (c : Char) : Bool :=
      given c || (given 'A' && "vET".toList.contains c) || (given 'e' && "vE".toList.contains c) ||
        (given 't' && "vT".toList.contains c)
    Act.say (if "bsnETv".toList.any o then shown o text else text) (if sound then 0 else 1)

/-- A count with a sign that turns its meaning round. -/
def count? (s : List Char) : Option (Option Char × Nat) :=
  match s with
  | '-' :: ds => if ds ≠ [] ∧ ds.all Char.isDigit then some (some '-', ofDigits 10 ds) else none
  | '+' :: ds => if ds ≠ [] ∧ ds.all Char.isDigit then some (some '+', ofDigits 10 ds) else none
  | ds => if ds ≠ [] ∧ ds.all Char.isDigit then some (none, ofDigits 10 ds) else none

/-- The first argument with a count of its own as an option. -/
def withCount (args : List (List Char)) : List (List Char) :=
  match args with
  | ('-' :: d :: ds) :: rest =>
    if (d :: ds).all Char.isDigit then ['-', 'n'] :: (d :: ds) :: rest else args
  | args => args

/-- Write a part of each file: of its lines or of its characters. -/
def part (cut : {α : Type} → Option Char → Nat → List α → List α) (args : List (List Char)) :
    Act Unit :=
  withArguments "qv" "nc" (withCount args) fun option names => do
    let many := 1 < names.length
    let first := names.head?
    let take (text : List Char) : Option (List Char) :=
      match option 'c' with
      | some n => (count? n).map fun (sign, n) => cut sign n text
      | none => (count? ((option 'n').getD ['1', '0'])).map fun (sign, n) =>
        (cut sign n (linesOf text)).flatten
    onEach names fun name text => do
      let title : List Char :=
        if many then (if some name = first then [] else ['\n']) ++ "==> ".toList ++ name ++
          " <==\n".toList
        else []
      match take text with
      | some text => Act.say (title ++ text) 0
      | none => Act.went 1

/-- The first so many, or all but the last so many. -/
def front {α : Type} (sign : Option Char) (n : Nat) (xs : List α) : List α :=
  if sign = some '-' then xs.take (xs.length - n) else xs.take n

/-- The last so many, or all from the one with a number on. -/
def back {α : Type} (sign : Option Char) (n : Nat) (xs : List α) : List α :=
  if sign = some '+' then xs.drop (n - 1) else xs.drop (xs.length - n)

/-- How many words a text has. -/
def wordCount (s : List Char) : Nat :=
  (s.foldl (fun (inside, n) c =>
    if isSpace c then (false, n) else (true, if inside then n else n + 1)) (false, 0)).2

/-- Count lines, words and characters. -/
def wc (args : List (List Char)) : Act Unit :=
  withArguments "lwcm" "" args fun option names => do
    let given (c : Char) : Bool := (option c).isSome
    let every := !("lwcm".toList.any given)
    let counts (text : List Char) : List Nat :=
      (if every || given 'l' then [text.count '\n'] else []) ++
      (if every || given 'w' then [wordCount text] else []) ++
      (if given 'm' then [text.length] else []) ++
      (if every || given 'c' then [text.length] else [])
    let s ← get
    let regular := match s.opening? 0 with
      | some (_, .file ..) => true
      | _ => false
    let mut found := []
    let mut status := 0
    let mut size := 0
    for name in if names.isEmpty then [['-']] else names do
      match ← contentOf? name with
      | some text =>
        found := (counts text, name) :: found
        size := size + text.length
      | none => status := 1
    let rows := found.reverse
    let single := (counts []).length = 1 ∧ names.length ≤ 1
    let piped := (names.isEmpty ∨ names.contains ['-']) ∧ !regular
    let width := if single then 1 else max (if piped then 7 else 1) (Nat.toDigits 10 size).length
    let line (row : List Nat × List Char) : List Char :=
      [' '].intercalate (row.1.map (padded width)) ++
        (if names.isEmpty then [] else ' ' :: row.2) ++ ['\n']
    let sum (a b : List Nat) : List Nat := List.zipWith (· + ·) a b
    let all := rows.foldl (fun t row => sum t row.1) ((counts []).map fun _ => 0)
    let total := if 1 < names.length then line (all, "total".toList) else []
    Act.say (rows.flatMap line ++ total) status

/-- Whole numbers from one to another. -/
def seq (args : List (List Char)) : Act Unit :=
  let run (first step last : Int) : Act Unit :=
    if step = 0 then Act.went 1
    else
      let n := if 0 < step then (last - first) / step else (first - last) / (-step)
      let rows := if n < 0 then [] else
        (List.range (n.toNat + 1)).flatMap fun (i : Nat) => digitsOf (first + step * i) ++ ['\n']
      Act.say rows 0
  match args.map (integer? false) with
  | [some last] => run 1 1 last
  | [some first, some last] => run first 1 last
  | [some first, some step, some last] => run first step last
  | _ => Act.went 1

/-- The number in front of a line. -/
def leadingNumber (s : List Char) : Int := ((signed? false s).map Prod.fst).getD 0

/-- A line with its end. -/
def ended (line : List Char) : List Char :=
  if line.getLast? = some '\n' then line else line ++ ['\n']

/-- A list without the elements that are alike to the one before them. -/
def withoutRepeats (alike : List Char → List Char → Bool) : List (List Char) → List (List Char)
  | a :: b :: rest =>
    if alike a b then withoutRepeats alike (a :: rest) else a :: withoutRepeats alike (b :: rest)
  | xs => xs
termination_by xs => xs.length

/-- Write lines in order. -/
def sort (args : List (List Char)) : Act Unit :=
  withArguments "rnufs" "" args fun option names => do
    let (text, sound) ← allOf names
    let given (c : Char) : Bool := (option c).isSome
    let body (line : List Char) : List Char := line.filter (· != '\n')
    let key (line : List Char) : List Char := if given 'f' then line.map Char.toUpper else line
    let first (a b : List Char) : Bool :=
      if given 'n' then decide (leadingNumber a < leadingNumber b) else !notAfter (key b) (key a)
    let byAll (a b : List Char) : Bool :=
      if first a b then true
      else if first b a then false
      else given 's' || given 'u' || notAfter a b
    let alike (a b : List Char) : Bool := !first a b && !first b a
    let lines := ((linesOf text).map body).mergeSort fun a b =>
      if given 'r' then byAll b a else byAll a b
    let lines := if given 'u' then withoutRepeats alike lines else lines
    if sound then Act.say (lines.flatMap fun line => line ++ ['\n']) 0 else Act.went 2

/-- Lines with how often each follows itself. -/
def repeats : List (List Char) → List (Nat × List Char)
  | [] => []
  | a :: rest =>
    match repeats rest with
    | (n, b) :: more => if a = b then (n + 1, b) :: more else (1, a) :: (n, b) :: more
    | [] => [(1, a)]

/-- Write lines that differ from the one before them. -/
def uniq (args : List (List Char)) : Act Unit :=
  withArguments "cdu" "" args fun option names => do
    let (text, sound) ← allOf (names.take 1)
    let given (c : Char) : Bool := (option c).isSome
    let rows := (repeats ((linesOf text).map ended)).filter fun (n, _) =>
      (!given 'd' || 1 < n) && (!given 'u' || n = 1)
    Act.say (rows.flatMap fun (n, line) => if given 'c' then padded 7 n ++ ' ' :: line else line)
      (if sound then 0 else 1)

/-- The characters of a set in writing.  The first argument bounds the number of steps. -/
def setOf : Nat → List Char → List Char
  | 0, _ => []
  | _ + 1, [] => []
  | bound + 1, '[' :: ':' :: rest =>
    let name := rest.takeWhile Char.isAlpha
    match rest.drop name.length with
    | ':' :: ']' :: rest =>
      ((List.range 256).map Char.ofNat).filter (Pattern.isOfKind name) ++ setOf bound rest
    | _ => '[' :: setOf bound (':' :: rest)
  | bound + 1, c :: rest =>
    let (c, rest) := if c = '\\' then Format.escape rest else (c, rest)
    match rest with
    | '-' :: d :: rest =>
      let (d, rest) := if d = '\\' then Format.escape rest else (d, rest)
      let range := (List.range (d.toNat + 1 - c.toNat)).map fun i => Char.ofNat (c.toNat + i)
      range ++ setOf bound rest
    | rest => c :: setOf bound rest

/-- A text in which a character of a set stands once where it is repeated. -/
def squeezed (set : List Char) : List Char → List Char
  | a :: b :: rest =>
    if a = b ∧ set.contains a then squeezed set (b :: rest) else a :: squeezed set (b :: rest)
  | s => s

/-- Replace, drop or squeeze characters of the input. -/
def tr (args : List (List Char)) : Act Unit :=
  withArguments "cCds" "" args fun option sets => do
    let given (c : Char) : Bool := (option c).isSome
    let set (s : List Char) : List Char := setOf (s.length + 1) s
    let all := (List.range 256).map Char.ofNat
    match sets.map set with
    | first :: more =>
      let first := if given 'c' ∨ given 'C' then all.filter fun c => !first.contains c else first
      let text ← input
      if given 'd' then
        let text := text.filter fun c => !first.contains c
        Act.say (if given 's' then squeezed (more.headD []) text else text) 0
      else
        match more with
        | [] => if given 's' then Act.say (squeezed first text) 0 else Act.went 1
        | second :: _ =>
          let last := second.getLast?.getD ' '
          let pairs := (first.zipIdx.map fun (c, i) => (c, second.getD i last)).reverse
          let text := text.map fun c => (pairs.lookup c).getD c
          Act.say (if given 's' then squeezed second text else text) 0
    | [] => Act.went 1

/-- The last name of a path. -/
def lastName (path : List Char) : List Char :=
  let path := (path.reverse.dropWhile (· == '/')).reverse
  if path = [] then ['/'] else (path.reverse.takeWhile (· != '/')).reverse

/-- Write the last name of a path, without an ending. -/
def basename (args : List (List Char)) : Act Unit :=
  match args.filter (· != ['-', '-']) with
  | [path] => Act.say (if path = [] then ['\n'] else lastName path ++ ['\n']) 0
  | [path, ending] =>
    let name := lastName path
    let name := if ending.isSuffixOf name ∧ ending ≠ name then
      name.take (name.length - ending.length) else name
    Act.say (name ++ ['\n']) 0
  | _ => Act.went 1

/-- The path of the directory that a path is in. -/
def directoryName (path : List Char) : List Char :=
  let trim (s : List Char) : List Char := s.dropWhile (· == '/')
  let above := trim ((trim path.reverse).dropWhile (· != '/'))
  if above ≠ [] then above.reverse else if path.head? = some '/' then ['/'] else ['.']

/-- Write the directories of paths. -/
def dirname (args : List (List Char)) : Act Unit :=
  match args.filter (· != ['-', '-']) with
  | [] => Act.went 1
  | paths => Act.say (paths.flatMap fun p => directoryName p ++ ['\n']) 0

/-- Write the input to the output and to files. -/
def tee (args : List (List Char)) : Act Unit :=
  withArguments "ai" "" args fun option names => do
    let text ← input
    let mut status := 0
    for name in names do
      let s ← get
      let before := if (option 'a').isSome then s.files.readFile (pathOf name) else .ok []
      let before := before.toOption.getD []
      match s.files.writeFile (pathOf name) (before ++ bytesOf text) with
      | .ok files => set { s with files }
      | .error _ => if !Builtin.isText name "/dev/null" then status := 1
    Act.say text status

/-! ### Programs that change files -/

/-- Change the files for each path, going badly when one cannot be changed. -/
def changeEach (paths : List (List Char)) (change : FileTree → Path → Option FileTree) :
    Act Unit := do
  let mut status := if paths.isEmpty then 1 else 0
  for path in paths do
    let s ← get
    match change s.files (pathOf path) with
    | some files => set { s with files }
    | none => status := 1
  Act.went status

/-- Make directories. -/
def mkdir (args : List (List Char)) : Act Unit :=
  withArguments "pv" "m" args fun option paths =>
    changeEach paths fun files p =>
      if (option 'p').isSome then
        match files.ensureDirectory p with
        | (.ok (), files) => some files
        | (.error _, _) => none
      else (files.makeDirectory p).toOption

/-- Remove empty directories. -/
def rmdir (args : List (List Char)) : Act Unit :=
  withArguments "pv" "" args fun _ paths =>
    changeEach paths fun files p =>
      match files.locate p with
      | .ok loc =>
        if files.node? loc = some .directory ∧ (files.namesIn loc).isEmpty then
          some (files.removeAt loc)
        else none
      | .error _ => none

/-- Remove files, and directories when asked. -/
def rm (args : List (List Char)) : Act Unit :=
  withArguments "rRfdvi" "" args fun option paths => do
    let given (c : Char) : Bool := (option c).isSome
    if paths.isEmpty then Act.succeeds (given 'f')
    else changeEach paths fun files p =>
      match files.locate p with
      | .ok loc =>
        if files.node? loc = some .directory ∧ !given 'r' ∧ !given 'R' then none
        else some (files.removeAt loc)
      | .error e => if given 'f' ∧ e.kind = .notFound then some files else none

/-- Make files that are not there. -/
def touch (args : List (List Char)) : Act Unit :=
  withArguments "cam" "drt" args fun option paths =>
    changeEach paths fun files p =>
      if (files.at? p).isSome then some files
      else if (option 'c').isSome then some files
      else (files.writeFile p []).toOption

/-- Change whether files may be run. -/
def chmod (args : List (List Char)) : Act Unit :=
  match args.filter fun a => !Builtin.isText a "--" with
  | mode :: paths =>
    let executable (was : Bool) : Bool :=
      if mode.all Char.isDigit then ofDigits 8 mode / 64 % 2 = 1
      else
        let what := mode.dropWhile fun c => "ugoa".toList.contains c
        if what.contains 'x' then what.head? ≠ some '-' else what.head? ≠ some '=' && was
    changeEach paths fun files p =>
      match files.locate p with
      | .ok (name :: above) =>
        match files.node? (name :: above) with
        | some (.file data was) => some (files.setFile above name data (executable was))
        | _ => some files
      | .ok [] => some files
      | .error _ => none
  | [] => Act.went 1

/-- Give sources with where each goes: into a directory, or the only one to a path; none when that
cannot be done. -/
def destinations? (files : FileTree) (paths : List (List Char)) :
    Option (List (List Char × List Char)) :=
  match paths.getLast?, paths.dropLast with
  | some target, sources =>
    if files.isDirectory (pathOf target) then
      let start := if target.getLast? = some '/' then target else target ++ ['/']
      some (sources.map fun p => (p, start ++ lastName p))
    else
      match sources with
      | [p] => some [(p, target)]
      | _ => none
  | none, _ => none

/-- Copy files, or move them. -/
def transfer (move : Bool) (args : List (List Char)) : Act Unit :=
  withArguments "fpniv" "" args fun _ paths => do
    match destinations? (← get).files paths with
    | none => Act.went 1
    | some pairs =>
      let mut status := 0
      for (source, target) in pairs do
        let s ← get
        match s.files.locate (pathOf source), s.files.locate (pathOf target) with
        | .error _, _ => status := 1
        | .ok loc, there =>
          if there.toOption = some loc then status := 1
          else
            match s.files.copyFile (pathOf source) (pathOf target) with
            | .ok files => set { s with files := if move then files.removeAt loc else files }
            | .error _ => status := 1
      Act.went status

/-- The work of a program that runs no other. -/
def find? (name : List Char) : Option (List (List Char) → Act Unit) :=
  let is (s : String) : Bool := Builtin.isText name s
  if is "cat" then some cat
  else if is "head" then some (part front)
  else if is "tail" then some (part back)
  else if is "wc" then some wc
  else if is "seq" then some seq
  else if is "sort" then some sort
  else if is "uniq" then some uniq
  else if is "tr" then some tr
  else if is "basename" then some basename
  else if is "dirname" then some dirname
  else if is "tee" then some tee
  else if is "mkdir" then some mkdir
  else if is "rmdir" then some rmdir
  else if is "rm" then some rm
  else if is "touch" then some touch
  else if is "chmod" then some chmod
  else if is "cp" then some (transfer false)
  else if is "mv" then some (transfer true)
  else if is "sleep" then some fun _ => Act.went 0
  else if is "echo" then some fun args => do
    modify fun s => { s with readsEscapes := false }
    Builtin.echo args
  else if is "true" || is "false" || is "printf" || is "test" || is "[" || is "pwd" then
    Builtin.find? isProgram name
  else none

end Baseline.Script.Program
