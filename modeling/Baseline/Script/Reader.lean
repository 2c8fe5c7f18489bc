import Baseline.Script.Command

/-!
# Reading scripts

A script is read a line at a time: `Reader.read` gives the commands at its front, up
to an end of a line at which they are whole, so that the commands before a line
that cannot be read are still run.

Every reader takes a bound on its depth first; `Reader.read` finds one in the length of the text.
-/

namespace Baseline.Script.Reader

/-! ### Characters between words -/

/-- Whether a character ends a word. -/
def endsWord (c : Char) : Bool := " \t\n;&|<>()".toList.contains c

/-- The text after blanks, broken lines and a comment. -/
def skipBlanks : List Char → List Char
  | ' ' :: rest | '\t' :: rest => skipBlanks rest
  | '\\' :: '\n' :: rest => skipBlanks rest
  | '#' :: rest => rest.dropWhile (· != '\n')
  | s => s

/-- The text after blanks, comments and ends of lines. -/
def skipLines (comment : Bool) : List Char → List Char
  | [] => []
  | '\\' :: '\n' :: rest => skipLines comment rest
  | c :: rest =>
    if c = '\n' then skipLines false rest
    else if comment ∨ c = ' ' ∨ c = '\t' then skipLines comment rest
    else if c = '#' then skipLines true rest
    else c :: rest

/-- The characters up to the end of a word. -/
def token (s : List Char) : List Char := s.takeWhile fun c => !endsWord c

/-- The text after a given word, which may stand on a later line. -/
def expectWord (w : String) (s : List Char) : Option (List Char) :=
  let s := skipLines false s
  if token s = w.toList then some (s.drop w.length) else none

/-- The text after a given sign, which may stand on a later line. -/
def expectSign (c : Char) (s : List Char) : Option (List Char) :=
  match skipLines false s with
  | d :: rest => if d = c then some rest else none
  | [] => none

/-- Words that close or divide a command. -/
def closers : List String := ["do", "done", "then", "else", "elif", "fi", "esac", "\x7d"]

/-- Whether no command starts at the front of a text. -/
def closes : List Char → Bool
  | [] => true
  | ')' :: _ => true
  | ';' :: ';' :: _ => true
  | s => closers.any fun w => token s == w.toList

/-! ### Parameters -/

/-- Signs that are names of parameters. -/
def signNames : List Char := "@*#?-$!".toList

/-- The name of a parameter between braces and the text after it. -/
def braceName? : List Char → Option (List Char × List Char)
  | [] => none
  | c :: rest =>
    if c.isDigit then
      let name := (c :: rest).takeWhile Char.isDigit
      some (name, (c :: rest).drop name.length)
    else if isNameChar c then
      let name := (c :: rest).takeWhile isNameChar
      some (name, (c :: rest).drop name.length)
    else if signNames.contains c then some ([c], rest)
    else none

/-- The name of a parameter without braces and the text after it: one digit at most. -/
def bareName? : List Char → Option (List Char × List Char)
  | [] => none
  | c :: rest => if c.isDigit then some ([c], rest) else braceName? (c :: rest)

/-- The fallback that a sign asks for. -/
def fallbackOf? : Char → Option Fallback
  | '-' => some .given
  | '=' => some .assigned
  | '+' => some .replaced
  | '?' => some .refused
  | _ => none

/-! ### Text that is read later -/

/-- The text up to a closing backquote, without the backslashes that kept it together, and the text
after it. -/
def backquoted? (quoted : Bool) : List Char → Option (List Char × List Char)
  | [] => none
  | '\x60' :: rest => some ([], rest)
  | '\\' :: c :: rest =>
    (backquoted? quoted rest).map fun (inner, rest) =>
      if "\x60\\$".toList.contains c || (quoted && c == '"') then (c :: inner, rest)
      else ('\\' :: c :: inner, rest)
  | c :: rest => (backquoted? quoted rest).map fun (inner, rest) => (c :: inner, rest)

/-- The lines of a text up to one that is the delimiter, and the text after that.  The first
argument bounds the number of lines. -/
def linesUpTo (strip : Bool) (delimiter : List Char) : Nat → List Char → List Char × List Char
  | 0, s => ([], s)
  | _ + 1, [] => ([], [])
  | bound + 1, s =>
    let line := s.takeWhile (· != '\n')
    let rest := s.drop (line.length + 1)
    let line := if strip then line.dropWhile (· == '\t') else line
    if line = delimiter then ([], rest)
    else
      let (lines, rest) := linesUpTo strip delimiter bound rest
      (line ++ '\n' :: lines, rest)

/-- The text after the line that has begun up to the delimiter, and the text without it. -/
def cutDocument (strip : Bool) (delimiter s : List Char) : List Char × List Char :=
  let line := s.takeWhile (· != '\n')
  match s.drop line.length with
  | [] => ([], line)
  | _ :: rest =>
    let (body, rest) := linesUpTo strip delimiter (rest.length + 1) rest
    (body, line ++ '\n' :: rest)

/-! ### Words -/

/-- What surrounds pieces. -/
inductive Setting
  | word
  /-- Double quotes. -/
  | quotes
  /-- The braces of a parameter. -/
  | braces (quoted : Bool)
  /-- A text of its own. -/
  | document
  /-- The parentheses of an expression, and more inside. -/
  | sum (depth : Nat)

namespace Setting

/-- Whether text keeps together without quotes. -/
def quoted : Setting → Bool
  | .word => false
  | .braces q => q
  | _ => true

/-- Whether the end of the text ends the pieces. -/
def endsWithText : Setting → Bool
  | .word | .document => true
  | _ => false

/-- Whether a character ends the pieces. -/
def isEnd : Setting → Char → Bool
  | .word, c => endsWord c
  | .quotes, c => c == '"'
  | .braces _, c => c == '\x7d'
  | .document, _ => false
  | .sum depth, c => depth == 0 && c == ')'

/-- The characters from which a backslash takes their meaning between quotes. -/
def escaped : Setting → List Char
  | .braces _ => "$\x60\"\\\x7d".toList
  | .document => "$\x60\\".toList
  | _ => "$\x60\"\\".toList

/-- Whether a double quote means a quote. -/
def hasDoubleQuotes : Setting → Bool
  | .word | .braces _ => true
  | _ => false

/-- What surrounds the pieces after a character. -/
def after : Setting → Char → Setting
  | .sum depth, '(' => .sum (depth + 1)
  | .sum depth, ')' => .sum (depth - 1)
  | setting, _ => setting

end Setting

/-- Whether a character means itself wherever it stands. -/
def isPlain (c : Char) : Bool := !"\\$'\"\x60\x7d() \t\n;&|<>".toList.contains c

/-- The name and the text of the value when an assignment is in front. -/
def assignment? (s : List Char) : Option (List Char × List Char) :=
  let name := s.takeWhile isNameChar
  match s.drop name.length with
  | '=' :: rest => if isName name then some (name, rest) else none
  | _ => none

/-- A sign of redirection for a descriptor. -/
def signFor? (descriptor : Option Nat) : List Char →
    Option (Nat × Redirection × Bool × List Char)
  | '<' :: '<' :: '-' :: rest => some (descriptor.getD 0, .document, true, rest)
  | '<' :: '<' :: rest => some (descriptor.getD 0, .document, false, rest)
  | '<' :: '&' :: rest => some (descriptor.getD 0, .duplicate, false, rest)
  | '<' :: '>' :: rest => some (descriptor.getD 0, .both, false, rest)
  | '<' :: rest => some (descriptor.getD 0, .input, false, rest)
  | '>' :: '>' :: rest => some (descriptor.getD 1, .append, false, rest)
  | '>' :: '&' :: rest => some (descriptor.getD 1, .duplicate, false, rest)
  | '>' :: '|' :: rest => some (descriptor.getD 1, .output, false, rest)
  | '>' :: rest => some (descriptor.getD 1, .output, false, rest)
  | _ => none

/-- A sign of redirection in front, with or without the digit of a descriptor: the descriptor, the
kind, whether tabs are taken off, and the text after it. -/
def sign? : List Char → Option (Nat × Redirection × Bool × List Char)
  | [] => none
  | c :: rest =>
    if c.isDigit then signFor? (some (c.toNat - 48)) rest else signFor? none (c :: rest)

/-- The parts of a simple command. -/
structure Parts where
  assignments : List (List Char × Word)
  words : List Word
  redirects : List Redirect

/-- A command with the redirections after it. -/
def withRedirects (c : Command) (rs : List Redirect) : Command :=
  match rs with
  | [] => c
  | _ => .redirected [c] rs

mutual

/-- The pieces up to the end that their setting asks for, and the text after it. -/
def pieces? : Nat → Setting → List Char → Option (Word × List Char)
  | 0, _, _ => none
  | _ + 1, setting, [] => if setting.endsWithText then some ([], []) else none
  | bound + 1, setting, c :: rest =>
    let more (p : Piece) (rest : List Char) : Option (Word × List Char) :=
      (pieces? bound setting rest).map fun (ps, rest) => (p :: ps, rest)
    let q := setting.quoted
    if setting.isEnd c then
      match setting, rest with
      | .word, _ => some ([], c :: rest)
      | .sum _, ')' :: rest => some ([], rest)
      | .sum _, _ => none
      | _, _ => some ([], rest)
    else if c = '\\' then
      match rest with
      | '\n' :: rest => pieces? bound setting rest
      | d :: rest =>
        if !q || setting.escaped.contains d then more (.text [d] true) rest
        else more (.text [c] true) (d :: rest)
      | [] => more (.text [c] true) []
    else if c = '$' then do
      let (p, rest) ← dollar? bound q rest
      more p rest
    else if c = '\x60' then do
      let (inner, rest) ← backquoted? q rest
      let (cs, left) ← list? bound inner
      if left = [] then more (.output cs q) rest else none
    else if c = '\'' ∧ !q then
      let t := rest.takeWhile (· != '\'')
      match rest.drop t.length with
      | _ :: rest => more (.text t true) rest
      | [] => none
    else if c = '"' ∧ setting.hasDoubleQuotes then do
      let (inner, rest) ← pieces? bound .quotes rest
      let (ps, rest) ← pieces? bound setting rest
      match inner with
      | [.parameter ['@'] .value _] => some (inner ++ ps, rest)
      | _ => some (.text [] true :: (inner ++ ps), rest)
    else if isPlain c then
      let t := (c :: rest).takeWhile isPlain
      more (.text t q) ((c :: rest).drop t.length)
    else
      (pieces? bound (setting.after c) rest).map fun (ps, rest) => (.text [c] q :: ps, rest)

/-- What a dollar sign begins, and the text after it. -/
def dollar? : Nat → Bool → List Char → Option (Piece × List Char)
  | 0, _, _ => none
  | bound + 1, quoted, s =>
    match s with
    | '(' :: '(' :: rest => do
      let (e, rest) ← pieces? bound (.sum 0) rest
      some (.number e quoted, rest)
    | '(' :: rest => do
      let (cs, rest) ← list? bound rest
      let rest ← expectSign ')' rest
      some (.output cs quoted, rest)
    | '\x7b' :: '#' :: '\x7d' :: rest => some (.parameter ['#'] .value quoted, rest)
    | '\x7b' :: '#' :: rest =>
      match braceName? rest with
      | some (name, '\x7d' :: rest) => some (.parameter name .length quoted, rest)
      | _ => use? bound ['#'] quoted rest
    | '\x7b' :: rest =>
      match braceName? rest with
      | some (name, rest) => use? bound name quoted rest
      | none => do
        let (_, rest) ← pieces? bound (.braces quoted) rest
        some (.parameter [] .senseless quoted, rest)
    | s =>
      match bareName? s with
      | some (name, rest) => some (.parameter name .value quoted, rest)
      | none => some (.text ['$'] quoted, s)

/-- How a parameter between braces is used, up to the closing brace. -/
def use? : Nat → List Char → Bool → List Char → Option (Piece × List Char)
  | 0, _, _, _ => none
  | bound + 1, name, quoted, s =>
    let word (inQuotes : Bool) (use : Word → Use) (rest : List Char) :
        Option (Piece × List Char) :=
      (pieces? bound (.braces inQuotes) rest).map fun (w, rest) =>
        (.parameter name (use w) quoted, rest)
    match s with
    | '\x7d' :: rest => some (.parameter name .value quoted, rest)
    | '#' :: '#' :: rest => word false (.without true true) rest
    | '#' :: rest => word false (.without true false) rest
    | '%' :: '%' :: rest => word false (.without false true) rest
    | '%' :: rest => word false (.without false false) rest
    | ':' :: c :: rest =>
      match fallbackOf? c with
      | some rule => word quoted (.fallback rule true) rest
      | none => word quoted (fun _ => .senseless) (c :: rest)
    | c :: rest =>
      match fallbackOf? c with
      | some rule => word quoted (.fallback rule false) rest
      | none => word quoted (fun _ => .senseless) (c :: rest)
    | [] => none

/-- The redirection after its sign. -/
def target? : Nat → Nat → Redirection → Bool → List Char → Option (Redirect × List Char)
  | 0, _, _, _, _ => none
  | bound + 1, descriptor, kind, strip, s => do
    let s := skipBlanks s
    if token s = [] then none
    else
      let (w, rest) ← pieces? bound .word s
      if kind = .document then
        let (body, rest) := cutDocument strip (literalText w) rest
        if hasQuotes w then some (.mk descriptor kind [.text body true], rest)
        else
          let (w, _) ← pieces? bound .document body
          some (.mk descriptor kind w, rest)
      else some (.mk descriptor kind w, rest)

/-- The redirections in front. -/
def redirects? : Nat → List Char → Option (List Redirect × List Char)
  | 0, _ => none
  | bound + 1, s =>
    let s := skipBlanks s
    match sign? s with
    | none => some ([], s)
    | some (descriptor, kind, strip, rest) => do
      let (r, rest) ← target? bound descriptor kind strip rest
      let (rs, rest) ← redirects? bound rest
      some (r :: rs, rest)

/-- The parts of a simple command; assignments stand only before the first word. -/
def parts? : Nat → Bool → List Char → Option (Parts × List Char)
  | 0, _, _ => none
  | bound + 1, first, s =>
    let s := skipBlanks s
    match sign? s with
    | some (descriptor, kind, strip, rest) => do
      let (r, rest) ← target? bound descriptor kind strip rest
      let (p, rest) ← parts? bound first rest
      some ({ p with redirects := r :: p.redirects }, rest)
    | none =>
      if token s = [] then some (⟨[], [], []⟩, s)
      else
        match if first then assignment? s else none with
        | some (name, rest) => do
          let (w, rest) ← pieces? bound .word rest
          let (p, rest) ← parts? bound true rest
          some ({ p with assignments := (name, w) :: p.assignments }, rest)
        | none => do
          let (w, rest) ← pieces? bound .word s
          let (p, rest) ← parts? bound false rest
          some ({ p with words := w :: p.words }, rest)

/-- The words up to the end of a line or a semicolon. -/
def words? : Nat → List Char → Option (List Word × List Char)
  | 0, _ => none
  | bound + 1, s =>
    let s := skipBlanks s
    if token s = [] then some ([], s)
    else do
      let (w, rest) ← pieces? bound .word s
      let (ws, rest) ← words? bound rest
      some (w :: ws, rest)

/-- The patterns of an arm up to the parenthesis after them. -/
def patterns? : Nat → List Char → Option (List Word × List Char)
  | 0, _ => none
  | bound + 1, s =>
    let s := skipBlanks s
    if token s = [] then none
    else do
      let (w, rest) ← pieces? bound .word s
      match skipBlanks rest with
      | '|' :: rest => do
        let (ws, rest) ← patterns? bound rest
        some (w :: ws, rest)
      | ')' :: rest => some ([w], rest)
      | _ => none

/-- The arms of a choice up to its last word. -/
def arms? : Nat → List Char → Option (List (List Word × List Command) × List Char)
  | 0, _ => none
  | bound + 1, s =>
    let s := skipLines false s
    if token s = "esac".toList then some ([], s.drop 4)
    else do
      let s := match s with
        | '(' :: rest => rest
        | s => s
      let (ps, rest) ← patterns? bound s
      let (body, rest) ← list? bound rest
      match skipLines false rest with
      | ';' :: ';' :: rest => do
        let (arms, rest) ← arms? bound rest
        some ((ps, body) :: arms, rest)
      | rest => do
        let rest ← expectWord "esac" rest
        some ([(ps, body)], rest)

/-- The rest of a branch after its first word. -/
def branch? : Nat → List Char → Option (Command × List Char)
  | 0, _ => none
  | bound + 1, s => do
    let (condition, rest) ← filled? bound s
    let (yes, rest) ← filled? bound (← expectWord "then" rest)
    match expectWord "elif" rest with
    | some rest => do
      let (no, rest) ← branch? bound rest
      some (.branch condition yes [no], rest)
    | none =>
      match expectWord "else" rest with
      | some rest => do
        let (no, rest) ← filled? bound rest
        some (.branch condition yes no, ← expectWord "fi" rest)
      | none => some (.branch condition yes [], ← expectWord "fi" rest)

/-- A loop over words after its first word. -/
def each? : Nat → List Char → Option (Command × List Char)
  | 0, _ => none
  | bound + 1, s => do
    let s := skipBlanks s
    let name := token s
    if !isName name then none
    else
      let rest := s.drop name.length
      let (words, rest) ← match expectWord "in" rest with
        | some rest => do
          let (ws, rest) ← words? bound rest
          match rest with
          | ';' :: rest | '\n' :: rest => some (some ws, rest)
          | _ => none
        | none =>
          match skipBlanks rest with
          | ';' :: rest => some (none, rest)
          | rest => some (none, rest)
      let (body, rest) ← filled? bound (← expectWord "do" rest)
      some (.each name words body, ← expectWord "done" rest)

/-- A command and the text after it. -/
def command? : Nat → List Char → Option (Command × List Char)
  | 0, _ => none
  | bound + 1, s =>
    let t := token s
    let after := s.drop t.length
    let compound (found : Option (Command × List Char)) : Option (Command × List Char) := do
      let (c, rest) ← found
      let (rs, rest) ← redirects? bound rest
      some (withRedirects c rs, rest)
    if s.head? = some '(' then compound do
      let (cs, rest) ← filled? bound s.tail
      some (.apart cs, ← expectSign ')' rest)
    else if closes s then none
    else if t = "if".toList then compound (branch? bound after)
    else if t = "while".toList ∨ t = "until".toList then compound do
      let (condition, rest) ← filled? bound after
      let (body, rest) ← filled? bound (← expectWord "do" rest)
      some (.loop (t = "while".toList) condition body, ← expectWord "done" rest)
    else if t = "for".toList then compound (each? bound after)
    else if t = "case".toList then compound do
      let (subject, rest) ← pieces? bound .word (skipBlanks after)
      let (arms, rest) ← arms? bound (← expectWord "in" rest)
      some (.choice subject arms, rest)
    else if t = ['\x7b'] then compound do
      let (cs, rest) ← filled? bound after
      some (.redirected cs [], ← expectWord "\x7d" rest)
    else if isName t ∧ (skipBlanks after).head? = some '(' then do
      let rest ← expectSign ')' (skipBlanks after).tail
      let (body, rest) ← command? bound (skipLines false rest)
      if isSpecial t then none else some (.function t body, rest)
    else do
      let (p, rest) ← parts? bound true s
      match p with
      | ⟨[], [], []⟩ => none
      | p => some (.simple p.assignments p.words p.redirects, rest)

/-- The stages of a pipe after the first. -/
def stages? : Nat → List Char → Option (List Command × List Char)
  | 0, _ => none
  | bound + 1, s =>
    match skipBlanks s with
    | '|' :: '|' :: rest => some ([], '|' :: '|' :: rest)
    | '|' :: rest => do
      let (c, rest) ← command? bound (skipLines false rest)
      let (cs, rest) ← stages? bound rest
      some (c :: cs, rest)
    | rest => some ([], rest)

/-- Commands that are joined by pipes, negated or not. -/
def pipeline? : Nat → List Char → Option (Command × List Char)
  | 0, _ => none
  | bound + 1, s =>
    if token s = ['!'] then
      let s := skipBlanks s.tail
      if token s = ['!'] then none
      else do
        let (c, rest) ← pipeline? bound s
        some (.negated c, rest)
    else do
      let (c, rest) ← command? bound s
      let (cs, rest) ← stages? bound rest
      match cs with
      | [] => some (c, rest)
      | cs => some (.pipe (c :: cs), rest)

/-- What is joined to a command by how it goes. -/
def joined? : Nat → Command → List Char → Option (Command × List Char)
  | 0, _, _ => none
  | bound + 1, c, s =>
    match skipBlanks s with
    | '&' :: '&' :: rest => do
      let (d, rest) ← pipeline? bound (skipLines false rest)
      joined? bound (.andThen c d) rest
    | '|' :: '|' :: rest => do
      let (d, rest) ← pipeline? bound (skipLines false rest)
      joined? bound (.orElse c d) rest
    | rest => some (c, rest)

/-- Commands up to a word or a sign that closes a command, or up to the end. -/
def list? : Nat → List Char → Option (List Command × List Char)
  | 0, _ => none
  | bound + 1, s =>
    let s := skipLines false s
    if closes s then some ([], s)
    else do
      let (c, rest) ← pipeline? bound s
      let (c, rest) ← joined? bound c rest
      match rest with
      | '&' :: rest => do
        let (cs, rest) ← list? bound rest
        some (.background c :: cs, rest)
      | ';' :: ';' :: rest => some ([c], ';' :: ';' :: rest)
      | ';' :: rest | '\n' :: rest => do
        let (cs, rest) ← list? bound rest
        some (c :: cs, rest)
      | rest => some ([c], rest)

/-- Commands, at least one, up to a word or a sign that closes a command. -/
def filled? : Nat → List Char → Option (List Command × List Char)
  | 0, _ => none
  | bound + 1, s => do
    let (cs, rest) ← list? bound s
    match cs with
    | [] => none
    | cs => some (cs, rest)

end

/-- Commands up to the end of a line. -/
def line? : Nat → List Char → Option (List Command × List Char)
  | 0, _ => none
  | bound + 1, s => do
    let (c, rest) ← pipeline? bound s
    let (c, rest) ← joined? bound c rest
    let goOn (c : Command) (rest : List Char) : Option (List Command × List Char) :=
      match skipBlanks rest with
      | '\n' :: rest => some ([c], rest)
      | [] => some ([c], [])
      | rest => (line? bound rest).map fun (cs, rest) => (c :: cs, rest)
    match rest with
    | [] => some ([c], [])
    | '\n' :: rest => some ([c], rest)
    | '&' :: rest => goOn (.background c) rest
    | ';' :: rest => goOn c rest
    | _ => none

/-- What is at the front of a script. -/
inductive Front
  | ended
  /-- Something that cannot be read. -/
  | broken
  | commands (cs : List Command) (rest : List Char)

/-- What is at the front of a script: the commands of its first line that has any. -/
def read (s : List Char) : Front :=
  match skipLines false s with
  | [] => .ended
  | s =>
    match line? (10 * s.length + 20) s with
    | some (cs, rest) => .commands cs rest
    | none => .broken

end Baseline.Script.Reader
