import Baseline.Text.Alphanumeric

/-!
# Patterns of fields

Whether a text is a regular expression that fields can be matched with.  The forms
are the usual ones: characters, classes in brackets that may hold each other, groups
with names or flags, choices, and repetitions.  References back to a group and looks
around are refused.  A repetition with counts is not read: its closing brace would end
the field.

The matcher has no tables of the characters of all scripts.  So what needs them is
refused: properties, classes such as that of the digits, borders of words, and letters
that match whatever their case.  The flag `u` limits an expression to single bytes when
it is switched off: then the classes are those of ASCII, and what would match part of a
character is refused.
-/

namespace Baseline.Event.Pattern

/-- What is left after a part that is read; none when it is not written as it should be. -/
abbrev Reader := List Char → Option (List Char)

/-- Whether a character is a hexadecimal digit. -/
def isHexDigit (c : Char) : Bool :=
  c.isDigit || ('a' ≤ c && c ≤ 'f') || ('A' ≤ c && c ≤ 'F')

/-- The value of hexadecimal digits. -/
def hexNumber (ds : List Char) : Nat :=
  ds.foldl (fun n c =>
    n * 16 + (if c.isDigit then c.toNat - 48 else (c.toNat ||| 32) - 87)) 0

/-! ### Flags -/

/-- The flags that decide what is refused. -/
structure Mode where
  ignoresCase : Bool
  allScripts : Bool

namespace Mode

/-- The flags at the start of an expression. -/
def initial : Mode := ⟨false, true⟩

/-- Whether characters and classes are refused because of their case. -/
def needsCases (m : Mode) : Bool := m.ignoresCase && m.allScripts

/-- Whether a list has a member twice. -/
def repeats : List Char → Bool
  | [] => false
  | c :: rest => rest.contains c || repeats rest

/-- The flags after a change: letters that are switched on, and after a dash those that are
switched off. -/
def change? (m : Mode) (s : List Char) : Option Mode :=
  if s.all "imsUuxR-".toList.contains ∧ !repeats s ∧ s.getLast? ≠ some '-' then
    let on := s.takeWhile (· != '-')
    let off := s.drop on.length
    let value (c : Char) (before : Bool) : Bool :=
      on.contains c || (before && !off.contains c)
    some ⟨value 'i' m.ignoresCase, value 'u' m.allScripts⟩
  else none

end Mode

/-! ### Escapes -/

/-- What an escape stands for: a character, a class of characters, or the end of a text or
word. -/
inductive Meaning
  | character (c : Char)
  | members
  | edge

/-- The character of so many hexadecimal digits. -/
def hexEscape (width : Nat) (s : List Char) : Option (Meaning × List Char) :=
  let ds := s.take width
  let n := hexNumber ds
  if ds.length = width ∧ ds.all isHexDigit ∧ n.isValidChar then
    some (.character (Char.ofNat n), s.drop width)
  else none

/-- The characters that one-letter escapes stand for. -/
def letterEscapes : List (Char × Char) :=
  [('a', '\x07'), ('f', '\x0c'), ('t', '\t'), ('n', '\n'), ('r', '\r'), ('v', '\x0b')]

/-- An escape, after its backslash. -/
def escape (m : Mode) : List Char → Option (Meaning × List Char)
  | [] => none
  | c :: rest =>
    match letterEscapes.lookup c with
    | some d => some (.character d, rest)
    | none =>
      if c = 'x' then
        (hexEscape 2 rest).filter fun _ => m.allScripts || hexNumber (rest.take 2) < 128
      else if c = 'u' then hexEscape 4 rest
      else if c = 'U' then hexEscape 8 rest
      else if c = 'd' ∨ c = 's' ∨ c = 'w' then if m.allScripts then none else some (.members, rest)
      else if c = 'A' ∨ c = 'z' then some (.edge, rest)
      else if c = 'b' ∨ c = 'B' ∨ c = '<' ∨ c = '>' then
        if m.allScripts then none else some (.edge, rest)
      else if c.isAlphanum ∨ 127 < c.toNat then none
      else some (.character c, rest)

/-! ### Classes -/

/-- The names of classes in brackets and colons. -/
def classNames : List String :=
  ["alnum", "alpha", "ascii", "blank", "cntrl", "digit", "graph", "lower", "print", "punct",
    "space", "upper", "word", "xdigit"]

/-- Whether a class in brackets and colons starts here, and what is after it when it may stand
here. -/
def namedClass? (m : Mode) : List Char → Option (Option (List Char))
  | '[' :: ':' :: rest =>
    let isOpposite := rest.head? = some '^'
    let rest := if isOpposite then rest.tail else rest
    let name := rest.takeWhile (· != ':')
    match rest.drop name.length with
    | ':' :: ']' :: rest =>
      if String.ofList name ∈ classNames then
        some (if isOpposite && !m.allScripts then none else some rest)
      else none
    | _ => none
  | _ => none

/-- A member of a class: a character or an escape. -/
def member (m : Mode) : List Char → Option (Meaning × List Char)
  | '\\' :: rest => (escape m rest).bind fun (meaning, rest) => fits meaning rest
  | c :: rest => fits (.character c) rest
  | [] => none
where
  fits (meaning : Meaning) (rest : List Char) : Option (Meaning × List Char) :=
    match meaning with
    | .character c => if m.allScripts ∨ c.toNat < 128 then some (meaning, rest) else none
    | .members => some (meaning, rest)
    | .edge => none

/-- Members of a class, or a range of them. -/
def range (m : Mode) (s : List Char) : Option (List Char) := do
  let (first, rest) ← member m s
  match rest with
  | '-' :: after =>
    if after.head? = some ']' ∨ after.head? = some '-' then return rest
    let (last, rest) ← member m after
    match first, last with
    | .character a, .character b => if a ≤ b then return rest else none
    | _, _ => none
  | _ => return rest

/-- Past what may stand right after an opening bracket: a mark that turns the class round, dashes,
and a closing bracket that is a member. -/
def openClass (m : Mode) (s : List Char) : Option (List Char) :=
  if s.head? = some '^' ∧ !m.allScripts then none
  else
    let s := if s.head? = some '^' then s.tail else s
    let inner := s.dropWhile (· == '-')
    some (if inner.length = s.length ∧ s.head? = some ']' then s.tail else inner)

/-- Past the rest of a class, `depth` of which are open.  The first argument bounds the number of
steps. -/
def classes (m : Mode) : (bound depth : Nat) → Reader
  | 0, _, _ => none
  | _, 0, s => some s
  | _, _, [] => none
  | bound + 1, depth + 1, c :: rest =>
    if c = '[' then
      match namedClass? m (c :: rest) with
      | some after => after.bind (classes m bound (depth + 1))
      | none => (openClass m rest).bind (classes m bound (depth + 2))
    else if c = ']' then classes m bound depth rest
    else if (c = '&' ∨ c = '-' ∨ c = '~') ∧ rest.head? = some c then
      classes m bound (depth + 1) rest.tail
    else (range m (c :: rest)).bind (classes m bound (depth + 1))

/-! ### Groups -/

/-- How a group opens. -/
inductive Opening
  /-- A group, with its name if it has one and the flags inside it. -/
  | group (name : Option (List Char)) (mode : Mode) (rest : List Char)
  /-- The flags for what follows. -/
  | flags (mode : Mode) (rest : List Char)

/-- The name of a group, after the sign in front of it. -/
def groupName (m : Mode) (s : List Char) : Option Opening :=
  let name := s.takeWhile (· != '>')
  let fits (c : Char) : Bool := c = '_' || Text.isAlphanumeric c
  match s.drop name.length, name with
  | '>' :: rest, c :: more =>
    if fits c ∧ !c.isDigit ∧ more.all fun d => fits d || d == '.' || d == '[' || d == ']' then
      some (.group (some name) m rest)
    else none
  | _, _ => none

/-- What follows an opening parenthesis. -/
def opening (m : Mode) : List Char → Option Opening
  | '?' :: 'P' :: '<' :: rest => groupName m rest
  | '?' :: '<' :: rest => groupName m rest
  | '?' :: rest =>
    let flags := rest.takeWhile fun c => c != ')' && c != ':'
    match rest.drop flags.length with
    | ')' :: rest => if flags = [] then none else (m.change? flags).map (.flags · rest)
    | ':' :: rest => (m.change? flags).map (.group none · rest)
    | _ => none
  | rest => some (.group none m rest)

/-! ### Expressions -/

/-- Whether the rest of an expression is written as it should be.  The flags are those of where it
starts, and `outer` has those of the groups around, innermost first; `operand` says whether there
is something to repeat, and the names are those of groups so far.  The first argument bounds the
number of steps. -/
def isRest : (bound : Nat) → Mode → (outer : List Mode) → (operand : Bool) →
    (names : List (List Char)) → List Char → Bool
  | 0, _, _, _, _, _ => false
  | _, _, outer, _, _, [] => outer.isEmpty
  | bound + 1, m, outer, operand, names, c :: rest =>
    let goOn := isRest bound m outer true names
    if c = '(' then
      match opening m rest with
      | some (.group none inner rest) => isRest bound inner (m :: outer) false names rest
      | some (.group (some name) inner rest) =>
        !names.contains name && isRest bound inner (m :: outer) false (name :: names) rest
      | some (.flags mode rest) => isRest bound mode outer false names rest
      | none => false
    else if c = ')' then
      match outer with
      | mode :: outer => isRest bound mode outer true names rest
      | [] => false
    else if c = '|' then isRest bound m outer false names rest
    else if c = '*' ∨ c = '+' ∨ c = '?' then
      operand && goOn (if rest.head? = some '?' then rest.tail else rest)
    else if c = '\x7b' then false
    else if c = '[' then
      !m.needsCases &&
        ((openClass m rest).bind (classes m (rest.length + 1) 1)).any goOn
    else if c = '.' then m.allScripts && goOn rest
    else if c = '^' ∨ c = '$' then goOn rest
    else if c = '\\' then
      match escape m rest with
      | some (.character _, rest) => !m.needsCases && goOn rest
      | some (_, rest) => goOn rest
      | none => false
    else !m.needsCases && goOn rest

/-- Whether characters are a regular expression. -/
def isExpression (s : List Char) : Bool := isRest (s.length + 1) .initial [] false [] s

/-! ### Numbers -/

/-- Whether characters are digits. -/
def areDigits (s : List Char) : Bool := s != [] && s.all Char.isDigit

/-- Whether characters are a decimal number, perhaps with a point and an exponent. -/
def isDecimal (s : List Char) : Bool :=
  let mantissa := s.takeWhile fun c => c != 'e' && c != 'E'
  let power := s.drop mantissa.length
  let whole := mantissa.takeWhile Char.isDigit
  let part := mantissa.drop whole.length
  let exponent := match power with
    | _ :: '+' :: ds | _ :: '-' :: ds => areDigits ds
    | _ :: ds => areDigits ds
    | [] => true
  exponent && (part = [] && whole != [] ||
    part.head? = some '.' && (whole != [] || part.tail != []) && part.tail.all Char.isDigit)

/-- Whether characters are a number with a sign in front or none. -/
def isNumber (s : List Char) : Bool :=
  let size := match s with
    | '+' :: rest | '-' :: rest => rest
    | _ => s
  isDecimal size ||
    ["inf", "infinity", "nan"].contains (String.ofList (size.map Char.toLower))

/-- Whether a field can be compared with what characters write: a number, or what matches a regular
expression. -/
def isValue (s : List Char) : Bool := isNumber s || isExpression s

example : isValue "x**".toList = true := by decide +kernel
example : isValue "(".toList = false := by decide +kernel
example : isValue "[c-a]".toList = false := by decide +kernel
example : isValue "\\w+".toList = false := by decide +kernel
example : isValue "(?i-u:\\w|[^a])".toList = false := by decide +kernel
example : isValue "(?i-u:\\w|[a])".toList = true := by decide +kernel
example : isValue "+5".toList = true := by decide +kernel

end Baseline.Event.Pattern
