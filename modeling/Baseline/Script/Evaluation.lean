import Baseline.Script.Lookup
import Baseline.Script.Reader

/-!
# Running commands

Words are replaced by what they stand for, redirections are made, and commands are run.
Every function takes a bound on its depth first, which loops use up too; the state's
patience bounds how many commands are run at all.
-/

namespace Baseline.Script

/-- The text of glyphs that are not divided: arguments are kept apart by blanks. -/
def undivided (gs : List Glyph) : List Char := gs.flatMap fun
  | .char c _ _ => [c]
  | .cut => [' ']
  | .quotes => []

/-- The text of a script: zero bytes count for nothing. -/
def scriptText (data : Bytes) : List Char := (charsOf data).filter (· != '\x00')

/-- A text without the ends of lines at its end. -/
def withoutLastLines (s : List Char) : List Char :=
  (s.reverse.dropWhile (· == '\n')).reverse

/-- Glyphs of several values: in quotes each is a field, and so is each that is left when the values
are divided. -/
def ofValues (quoted : Bool) (vs : List (List Char)) : List Glyph :=
  [Glyph.cut].intercalate (vs.map fun v =>
    if quoted then .quotes :: Glyph.ofText true false v else Glyph.ofText false true v)

/-- The values that a parameter stands for; none when it has none although the script is strict. -/
def valuesOf? (s : State) (name : List Char) (quoted : Bool) : Option (List (List Char)) :=
  if name = ['@'] ∨ (name = ['*'] ∧ !quoted) then some s.arguments
  else if name = ['*'] then some [s.joint.intercalate s.arguments]
  else
    match s.value? name with
    | some v => some [v]
    | none => if s.options.strict then none else some [[]]

/-- The glyphs of values of a parameter: several are fields of their own. -/
def ofParameter (name : List Char) (quoted : Bool) (vs : List (List Char)) : List Glyph :=
  if name = ['@'] ∨ (name = ['*'] ∧ !quoted) then ofValues quoted vs
  else Glyph.ofText quoted (!quoted) vs.flatten

mutual

/-- The glyphs that a piece stands for.  Its own text divides it when `inner`. -/
def glyphs : Nat → Bool → Piece → Act (List Glyph)
  | 0, _, _ => do
    Act.fail
    return []
  | bound + 1, inner, piece =>
    let refuse : Act (List Glyph) := do
      Act.fail
      return []
    match piece with
    | .text t quoted =>
      return if quoted then .quotes :: Glyph.ofText true false t else Glyph.ofText false inner t
    | .parameter name use quoted => do
      let s ← get
      let value? := s.value? name
      let plain : Act (List Glyph) :=
        match valuesOf? s name quoted with
        | some vs => pure (ofParameter name quoted vs)
        | none => refuse
      match use with
      | .value => plain
      | .length =>
        match value? with
        | some v => return Glyph.ofText quoted (!quoted) (Nat.toDigits 10 v.length)
        | none =>
          if s.options.strict ∧ name ≠ ['@'] ∧ name ≠ ['*'] then refuse
          else return Glyph.ofText quoted (!quoted) ['0']
      | .fallback rule orEmpty word =>
        let present := value?.isSome && !(orEmpty && value? == some [])
        match rule with
        | .given => if present then plain else glyphsOf bound true word
        | .replaced => if present then glyphsOf bound true word else return []
        | .refused => if present then plain else refuse
        | .assigned =>
          if present then plain
          else if !isName name then refuse
          else do
            let v ← textOf bound word
            Act.assign name v
            return Glyph.ofText quoted (!quoted) v
      | .without front longest word => do
        let gs ← glyphsOf bound false word
        let p := Pattern.ofMarks (Glyph.marks gs)
        match valuesOf? (← get) name quoted with
        | some vs => return ofParameter name quoted (p.cutAll front longest vs)
        | none => refuse
      | .senseless => refuse
    | .output body quoted => do
      let status := (← get).status
      let text ← Act.captured (Act.apart (atEnd bound) (runAll bound false body))
      modify fun s => { s with status, wordStatus := s.status }
      let text := withoutLastLines (text.filter (· != '\x00'))
      return Glyph.ofText quoted (!quoted) text
    | .number w quoted => do
      let text ← textOf bound w
      let s ← get
      let look (name : List Char) : Option Int64 :=
        match s.value? name with
        | some v => (integer? true v).map Int64.ofInt
        | none => some 0
      match (Expression.read? text).bind fun e => (e.evaluate? look).run [] with
      | some (n, assigned) => do
        for (name, n) in assigned.reverse do
          Act.assign name (digitsOf n.toInt)
        return Glyph.ofText quoted (!quoted) (digitsOf n.toInt)
      | none => refuse

/-- The glyphs that a word stands for. -/
def glyphsOf : Nat → Bool → Word → Act (List Glyph)
  | 0, _, _ => do
    Act.fail
    return []
  | _ + 1, _, [] => return []
  | bound + 1, inner, p :: rest => do
    let gs ← glyphs bound inner p
    if ← Act.goesOn then return gs ++ (← glyphsOf bound inner rest)
    else return gs

/-- The text that a word stands for, which is not divided. -/
def textOf : Nat → Word → Act (List Char)
  | 0, _ => do
    Act.fail
    return []
  | bound + 1, w => do return undivided (← glyphsOf bound false w)

/-- The fields that words stand for. -/
def fieldsOf : Nat → List Word → Act (List (List Char))
  | 0, _ => do
    Act.fail
    return []
  | _ + 1, [] => return []
  | bound + 1, w :: rest => do
    let gs ← glyphsOf bound false w
    if ← Act.goesOn then
      let s ← get
      let fields := divide s.dividers [] .open_ gs
      let texts := fields.flatMap (fieldTexts s.files (!s.options.noPatterns))
      return texts ++ (← fieldsOf bound rest)
    else return []

/-- Make redirections; tells whether all could be made. -/
def redirectAll : Nat → List Redirect → Act Bool
  | 0, _ => return false
  | _ + 1, [] => return true
  | bound + 1, .mk descriptor kind target :: rest => do
    let text ← textOf bound target
    if ← Act.goesOn then
      let made ← match kind with
        | .document => do
          modify fun s => s.open_ descriptor (.source text)
          pure true
        | .duplicate => Act.duplicate descriptor text
        | _ => Act.openPath descriptor kind text
      if made then redirectAll bound rest else return false
    else return false

/-- Run commands one after the other.  They are tried when `tried`: one that goes badly does not
end a careful script. -/
def runAll : Nat → Bool → List Command → Act Unit
  | 0, _, _ => Act.fail
  | _ + 1, _, [] => return ()
  | bound + 1, tried, c :: rest => do
    run bound tried c
    if ← Act.goesOn then runAll bound tried rest

/-- Run a command. -/
def run : Nat → Bool → Command → Act Unit
  | 0, _, _ => Act.fail
  | bound + 1, tried, c => do
    let patience := (← get).patience
    modify fun s => { s with
      patience := patience - 1
      flow := if patience = 0 then .killed else s.flow }
    match c with
    | .simple assignments words redirects => do
      simple bound tried assignments words redirects
      Act.checked tried
    | .redirected body [] => runAll bound tried body
    | .redirected body redirects => do
      Act.keepingDescriptors do
        if ← redirectAll bound redirects then runAll bound tried body
        else if ← Act.goesOn then Act.went 2
      Act.checked tried
    | .andThen a b => do
      run bound true a
      let s ← get
      if s.flow = .on ∧ s.status = 0 then run bound tried b
    | .orElse a b => do
      run bound true a
      let s ← get
      if s.flow = .on ∧ s.status ≠ 0 then run bound tried b
    | .negated a => do
      run bound true a
      if ← Act.goesOn then Act.succeeds ((← get).status ≠ 0)
    | .pipe stages => do
      runStages bound tried stages
      Act.checked tried
    | .background a => do
      Act.keepingDescriptors do
        modify fun s => s.open_ 0 .nothing
        Act.apart (atEnd bound) (run bound tried a)
      Act.went 0
    | .apart body => do
      Act.apart (atEnd bound) (runAll bound tried body)
      Act.checked tried
    | .branch condition yes no => do
      runAll bound true condition
      let s ← get
      if s.flow = .on then
        if s.status = 0 then runAll bound tried yes
        else do
          Act.went 0
          runAll bound tried no
    | .loop whileSuccess condition body =>
      Act.inLoop (repeatWhile bound tried whileSuccess condition body 0)
    | .each name words body => do
      let values ← match words with
        | some ws => fieldsOf bound ws
        | none => do pure (← get).arguments
      if ← Act.goesOn then
        Act.went 0
        Act.inLoop (forEach bound tried name values body)
    | .choice subject arms => do
      let text ← textOf bound subject
      if ← Act.goesOn then chooseArm bound tried text arms
    | .function name body => do
      modify fun s => { s with
        functions := (name, body) :: s.functions.filter (·.1 != name)
        status := 0 }

/-- Run stages, each of which reads what the one before it writes. -/
def runStages : Nat → Bool → List Command → Act Unit
  | 0, _, _ => Act.fail
  | _ + 1, _, [] => return ()
  | bound + 1, tried, [c] => Act.apart (atEnd bound) (run bound tried c)
  | bound + 1, tried, c :: rest => do
    let text ← Act.captured (Act.apart (atEnd bound) (run bound tried c))
    if ← Act.goesOn then
      Act.keepingDescriptors do
        modify fun s => s.open_ 0 (.source text)
        runStages bound tried rest

/-- Run the body as long as the condition goes the wanted way; then the status is that of the last
round. -/
def repeatWhile : Nat → Bool → Bool → List Command → List Command → Nat → Act Unit
  | 0, _, _, _, _, _ => Act.fail
  | bound + 1, tried, whileSuccess, condition, body, last => do
    runAll bound true condition
    if ← Act.nextRound then
      let s ← get
      if decide (s.status = 0) = whileSuccess then
        runAll bound tried body
        let status := (← get).status
        if ← Act.nextRound then repeatWhile bound tried whileSuccess condition body status
      else Act.went last

/-- Run the body for each value. -/
def forEach : Nat → Bool → List Char → List (List Char) → List Command → Act Unit
  | 0, _, _, _, _ => Act.fail
  | _ + 1, _, _, [], _ => return ()
  | bound + 1, tried, name, v :: rest, body => do
    Act.assign name v
    if ← Act.goesOn then
      runAll bound tried body
      if ← Act.nextRound then forEach bound tried name rest body

/-- Run the first arm with a pattern that fits a text. -/
def chooseArm : Nat → Bool → List Char → List (List Word × List Command) → Act Unit
  | 0, _, _, _ => Act.fail
  | _ + 1, _, _, [] => Act.went 0
  | bound + 1, tried, text, (patterns, body) :: rest => do
    if ← fitsAny bound text patterns then
      Act.went 0
      runAll bound tried body
    else if ← Act.goesOn then chooseArm bound tried text rest

/-- Whether one of several patterns fits a text. -/
def fitsAny : Nat → List Char → List Word → Act Bool
  | 0, _, _ => return false
  | _ + 1, _, [] => return false
  | bound + 1, text, w :: rest => do
    let gs ← glyphsOf bound false w
    if ← Act.goesOn then
      if (Pattern.ofMarks (Glyph.marks gs)).fits text then return true
      else fitsAny bound text rest
    else return false

/-- The values of assignments, each of which is made before the next value is found. -/
def assignAll : Nat → List (List Char × Word) → Act Unit
  | 0, _ => Act.fail
  | _ + 1, [] => return ()
  | bound + 1, (name, w) :: rest => do
    let v ← textOf bound w
    if ← Act.goesOn then
      Act.assign name v
      if ← Act.goesOn then assignAll bound rest

/-- The values of assignments. -/
def valuesOf : Nat → List (List Char × Word) → Act (List (List Char × List Char))
  | 0, _ => return []
  | _ + 1, [] => return []
  | bound + 1, (name, w) :: rest => do
    let v ← textOf bound w
    return (name, v) :: (← valuesOf bound rest)

/-- Run a simple command. -/
def simple : Nat → Bool → List (List Char × Word) → List Word → List Redirect → Act Unit
  | 0, _, _, _, _ => Act.fail
  | bound + 1, tried, assignments, words, redirects => do
    modify fun s => { s with wordStatus := 0 }
    let args ← fieldsOf bound words
    if ← Act.goesOn then
      match args with
      | [] =>
        Act.keepingDescriptors do
          if ← redirectAll bound redirects then
            assignAll bound assignments
            if ← Act.goesOn then Act.went (← get).wordStatus
          else if ← Act.goesOn then Act.went 2
      | name :: args =>
        let known := isSpecial name
        let lasting := Builtin.isText name "exec" && args.isEmpty
        let work : Act Unit := do
          if ← redirectAll bound redirects then
            if known then
              assignAll bound assignments
              if ← Act.goesOn then invoke bound tried true name args
            else
              let settings ← valuesOf bound assignments
              if ← Act.goesOn then
                Act.withVariables settings (invoke bound tried true name args)
          else if ← Act.goesOn then
            if known then Act.fail else Act.went 2
        if lasting then work else Act.keepingDescriptors work

/-- Run a command by its name: a function when they count, one that the script knows, or a
program. -/
def invoke : Nat → Bool → Bool → List Char → List (List Char) → Act Unit
  | 0, _, _, _, _ => Act.fail
  | bound + 1, tried, functions, name, args => do
    let s ← get
    let is (t : String) : Bool := Builtin.isText name t
    match if functions && !isSpecial name then s.functions.lookup name else none with
    | some body => Act.inFunction args (run bound tried body)
    | none =>
      if is "eval" then do
        Act.went 0
        runText bound tried ([' '].intercalate args)
      else if is "." then
        match args with
        | path :: _ =>
          let paths := if path.contains '/' then [path] else pathsOf s path
          match paths.findSome? fun p => (s.files.readFile (pathOf p)).toOption with
          | some data => do
            Act.went 0
            runText bound tried (scriptText data)
            modify fun s => { s with flow := if s.flow = .back then .on else s.flow }
          | none => Act.fail
        | [] => Act.went 0
      else if is "exec" then
        match args with
        | [] => Act.went 0
        | name :: args => do
          execute bound name args
          modify fun s => { s with flow := if s.flow = .on then .ended else s.flow, ending := none }
      else if is "command" then
        match args.filter fun a => !Builtin.isText a "-p" && !Builtin.isText a "--" with
        | ['-', 'v'] :: name :: _ =>
          match shownCommand? s name with
          | some t => Act.say (t ++ ['\n']) 0
          | none => Act.went 127
        | ['-', 'V'] :: names => showTypes names
        | name :: args => invoke bound tried false name args
        | [] => Act.went 0
      else if is "type" then showTypes args
      else
        match Builtin.find? Program.isProgram name with
        | some work => do
          work args
          -- The faults of a command that `command` runs do not end the script.
          if !functions then
            modify fun t => { t with
              flow := if t.flow = .ended ∧ !is "exit" then .on else t.flow }
        | none => execute bound name args
/-- Run a program by its name. -/
def execute : Nat → List Char → List (List Char) → Act Unit
  | 0, _, _ => Act.fail
  | bound + 1, name, args => do
    let s ← get
    match Launch.findFirst s.files args .notFound (if name = [] then [] else pathsOf s name) with
    | .ok l => launch bound l
    | .error (.system 8, path) => launch bound ⟨"sh".toList, path :: args⟩
    | .error (fault, _) =>
      Act.went (if fault = .accessDenied ∧ name.contains '/' then 126 else 127)

/-- Run a program of the system. -/
def launch : Nat → Launch → Act Unit
  | 0, _ => Act.fail
  | bound + 1, l =>
    if Program.shells.any (Builtin.isText l.program) then
      Act.apart (atEnd bound) do
        modify fun s => { fresh s with readsEscapes := !Builtin.isText l.program "bash" }
        shell bound l.program l.arguments
    else if Builtin.isText l.program "env" then
      Act.apart (return ()) do
        let (s, words) := inEnvironment (← get) l.arguments
        set s
        match words with
        | ('-' :: _) :: _ => Act.went 125
        | name :: args => execute bound name args
        | [] => Act.say (shownEnvironment s) 0
    else
      match Program.find? l.program with
      | some work => Act.apart (return ()) (work l.arguments)
      | none => Act.went 127

/-- Run a shell with its arguments. -/
def shell : Nat → List Char → List (List Char) → Act Unit
  | 0, _, _ => Act.fail
  | bound + 1, program, args => do
    match shellArguments? (← get).options false args with
    | none => Act.fail
    | some (options, given, rest) =>
      modify fun s => { s with options }
      match given, rest with
      | true, text :: rest => do
        modify fun s => { s with name := rest.headD program, arguments := rest.tail }
        runText bound false text
      | true, [] => Act.fail
      | false, path :: rest =>
        match (← get).files.readFile (pathOf path) with
        | .ok data => do
          modify fun s => { s with name := path, arguments := rest }
          runText bound false (scriptText data)
        | .error _ => Act.went 2
      | false, [] => do
        modify fun s => { s with name := program, arguments := [] }
        let text ← Program.input
        runText bound false text

/-- Run the commands of a text, line by line, up to one that cannot be read. -/
def runText : Nat → Bool → List Char → Act Unit
  | 0, _, _ => Act.fail
  | bound + 1, tried, text =>
    match Reader.read text with
    | .ended => return ()
    | .broken => Act.fail
    | .commands cs rest => do
      if !(← get).options.onlyReading then runAll bound tried cs
      if ← Act.goesOn then runText bound tried rest

/-- Run what a script has said to run at its end. -/
def atEnd : Nat → Act Unit
  | 0 => return ()
  | bound + 1 => do
    let s ← get
    match s.ending with
    | some text =>
      if s.flow = .killed then return ()
      else do
        set { s with ending := none, flow := .on }
        runText bound false text
        let t ← get
        set { t with status := if t.flow = Flow.ended then t.status else s.status }
    | none => return ()

end

end Baseline.Script
