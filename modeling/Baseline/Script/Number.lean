import Baseline.Script.Command

/-!
# Numbers of a script

Expressions work on whole numbers of 64 bits.  `Expression.read?` reads one and
`Expression.evaluate?` gives its value together with what it assigned on the way.
-/

namespace Baseline.Script

/-! ### Digits -/

/-- The value of a digit in bases up to sixteen. -/
def digitValue? (c : Char) : Option Nat :=
  if c.isDigit then some (c.toNat - 48)
  else if 'a' ≤ c ∧ c ≤ 'f' then some (c.toNat - 87)
  else if 'A' ≤ c ∧ c ≤ 'F' then some (c.toNat - 55)
  else none

/-- Whether a character is a digit in a base. -/
def isDigitIn (base : Nat) (c : Char) : Bool :=
  match digitValue? c with
  | some d => d < base
  | none => false

/-- The number that digits write in a base. -/
def ofDigits (base : Nat) (ds : List Char) : Nat :=
  ds.foldl (fun n c => n * base + (digitValue? c).getD 0) 0

/-- The number in front, whose start tells its base when `based`, and the text after it; none when
no digit is in front. -/
def natural? (based : Bool) (s : List Char) : Option (Nat × List Char) :=
  let digits (base : Nat) (s : List Char) : Nat × List Char :=
    let ds := s.takeWhile (isDigitIn base)
    (ofDigits base ds, s.drop ds.length)
  match s with
  | '0' :: x :: d :: rest =>
    if based ∧ (x = 'x' ∨ x = 'X') ∧ isDigitIn 16 d then some (digits 16 (d :: rest))
    else some (digits (if based then 8 else 10) s)
  | c :: _ =>
    if c.isDigit then some (digits (if based ∧ c = '0' then 8 else 10) s) else none
  | [] => none

/-- The largest number of 64 bits. -/
def largest : Int := 9223372036854775807

/-- The number of 64 bits that is nearest. -/
def nearest (n : Int) : Int64 := Int64.ofInt (max (-largest - 1) (min largest n))

/-- Whether a character is a space of any kind. -/
def isSpace (c : Char) : Bool := c == ' ' || (9 ≤ c.toNat && c.toNat ≤ 13)

/-- The number in front after spaces and a sign, and the text after it. -/
def signed? (based : Bool) (s : List Char) : Option (Int × List Char) :=
  match s.dropWhile isSpace with
  | '-' :: rest => (natural? based rest).map fun (n, rest) => (-(n : Int), rest)
  | '+' :: rest => (natural? based rest).map fun (n, rest) => ((n : Int), rest)
  | rest => (natural? based rest).map fun (n, rest) => ((n : Int), rest)

/-- The number that a text writes, spaces around it apart. -/
def integer? (based : Bool) (s : List Char) : Option Int :=
  match signed? based s with
  | some (n, rest) =>
    if rest.all isSpace ∧ -largest - 1 ≤ n ∧ n ≤ largest then some n else none
  | none => if based ∧ s.all isSpace then some 0 else none

/-- A number in decimal digits. -/
def digitsOf (n : Int) : List Char :=
  if n < 0 then '-' :: Nat.toDigits 10 n.natAbs else Nat.toDigits 10 n.natAbs

/-! ### Expressions -/

/-- What joins two numbers. -/
inductive Operation
  | times | divided | remainder | plus | minus | shiftedLeft | shiftedRight
  | less | lessEqual | greater | greaterEqual | equal | unequal
  | bitAnd | bitXor | bitOr
deriving DecidableEq

namespace Operation

/-- One for what holds and zero for what does not. -/
def truth (b : Bool) : Int64 := if b then 1 else 0

/-- The result of an operation; none for a division by zero. -/
def result? (op : Operation) (a b : Int64) : Option Int64 :=
  match op with
  | times => some (a * b)
  | divided => if b = 0 then none else some (a / b)
  | remainder => if b = 0 then none else some (a % b)
  | plus => some (a + b)
  | minus => some (a - b)
  | shiftedLeft => some (a <<< b)
  | shiftedRight => some (a >>> b)
  | less => some (truth (a < b))
  | lessEqual => some (truth (a ≤ b))
  | greater => some (truth (b < a))
  | greaterEqual => some (truth (b ≤ a))
  | equal => some (truth (a = b))
  | unequal => some (truth (a ≠ b))
  | bitAnd => some (a &&& b)
  | bitXor => some (a ^^^ b)
  | bitOr => some (a ||| b)

/-- How closely an operation binds. -/
def level : Operation → Nat
  | times | divided | remainder => 10
  | plus | minus => 9
  | shiftedLeft | shiftedRight => 8
  | less | lessEqual | greater | greaterEqual => 7
  | equal | unequal => 6
  | bitAnd => 5
  | bitXor => 4
  | bitOr => 3

/-- Whether an operation has an assignment of its own. -/
def assigns (op : Operation) : Bool := op.level ≠ 7 && op.level ≠ 6

/-- The operation in front and the text after it. -/
def sign? : List Char → Option (Operation × List Char)
  | '<' :: '<' :: rest => some (shiftedLeft, rest)
  | '>' :: '>' :: rest => some (shiftedRight, rest)
  | '<' :: '=' :: rest => some (lessEqual, rest)
  | '>' :: '=' :: rest => some (greaterEqual, rest)
  | '=' :: '=' :: rest => some (equal, rest)
  | '!' :: '=' :: rest => some (unequal, rest)
  | '&' :: '&' :: _ => none
  | '|' :: '|' :: _ => none
  | '*' :: rest => some (times, rest)
  | '/' :: rest => some (divided, rest)
  | '%' :: rest => some (remainder, rest)
  | '+' :: rest => some (plus, rest)
  | '-' :: rest => some (minus, rest)
  | '<' :: rest => some (less, rest)
  | '>' :: rest => some (greater, rest)
  | '&' :: rest => some (bitAnd, rest)
  | '^' :: rest => some (bitXor, rest)
  | '|' :: rest => some (bitOr, rest)
  | _ => none

end Operation

/-- An expression. -/
inductive Expression
  | number (n : Int64)
  | variable_ (name : List Char)
  | negative (e : Expression)
  | complement (e : Expression)
  | isZero (e : Expression)
  | binary (op : Operation) (a b : Expression)
  | both (a b : Expression)
  | either (a b : Expression)
  | choice (condition yes no : Expression)
  | assign (name : List Char) (op : Option Operation) (e : Expression)

namespace Expression

/-- The operation of an assignment in front, if it has one, and the text after the sign. -/
def assignment? (s : List Char) : Option (Option Operation × List Char) :=
  match s with
  | '=' :: '=' :: _ => none
  | '=' :: rest => some (none, rest)
  | s =>
    match Operation.sign? s with
    | some (op, '=' :: rest) => if op.assigns then some (some op, rest) else none
    | _ => none

/-- The operation in front that is no assignment. -/
def operation? (s : List Char) : Option (Operation × List Char) :=
  match Operation.sign? s with
  | some (op, '=' :: rest) => if op.assigns then none else some (op, '=' :: rest)
  | found => found

/-- The text after spaces. -/
def skip (s : List Char) : List Char := s.dropWhile isSpace

mutual

/-- An expression and the text after it.  The first argument bounds the depth, here and below. -/
def whole? : Nat → List Char → Option (Expression × List Char)
  | 0, _ => none
  | bound + 1, s =>
    let s := skip s
    let name := s.takeWhile isNameChar
    match if isName name then assignment? (skip (s.drop name.length)) else none with
    | some (op, rest) => do
      let (e, rest) ← whole? bound rest
      some (.assign name op e, rest)
    | none => choice? bound s

/-- An expression that assigns nothing outside its parts. -/
def choice? : Nat → List Char → Option (Expression × List Char)
  | 0, _ => none
  | bound + 1, s => do
    let (c, rest) ← either? bound s
    match rest with
    | '?' :: rest => do
      let (yes, rest) ← whole? bound rest
      match rest with
      | ':' :: rest => do
        let (no, rest) ← choice? bound rest
        some (.choice c yes no, rest)
      | _ => none
    | rest => some (c, rest)

/-- Expressions of which one has to hold. -/
def either? : Nat → List Char → Option (Expression × List Char)
  | 0, _ => none
  | bound + 1, s => do
    let (a, rest) ← both? bound s
    match rest with
    | '|' :: '|' :: rest => do
      let (b, rest) ← either? bound rest
      some (.either a b, rest)
    | rest => some (a, rest)

/-- Expressions that all have to hold. -/
def both? : Nat → List Char → Option (Expression × List Char)
  | 0, _ => none
  | bound + 1, s => do
    let (a, rest) ← operand? bound s
    let (a, rest) ← joined? bound 0 a rest
    match rest with
    | '&' :: '&' :: rest => do
      let (b, rest) ← both? bound rest
      some (.both a b, rest)
    | rest => some (a, rest)

/-- What operations that bind more closely than a level join to an expression. -/
def joined? : Nat → Nat → Expression → List Char → Option (Expression × List Char)
  | 0, _, _, _ => none
  | bound + 1, level, a, s =>
    match operation? s with
    | some (op, rest) =>
      if level < op.level then do
        let (b, rest) ← operand? bound rest
        let (b, rest) ← joined? bound op.level b rest
        joined? bound level (.binary op a b) rest
      else some (a, s)
    | none => some (a, s)

/-- A number, a name, or what stands in parentheses, with its signs; spaces after it are skipped. -/
def operand? : Nat → List Char → Option (Expression × List Char)
  | 0, _ => none
  | bound + 1, s =>
    let under (f : Expression → Expression) (rest : List Char) : Option (Expression × List Char) :=
      (operand? bound rest).map fun (e, rest) => (f e, rest)
    match skip s with
    | '-' :: rest => under negative rest
    | '+' :: rest => under id rest
    | '~' :: rest => under complement rest
    | '!' :: rest => under isZero rest
    | '(' :: rest => do
      let (e, rest) ← whole? bound rest
      match rest with
      | ')' :: rest => some (e, skip rest)
      | _ => none
    | s =>
      let name := s.takeWhile isNameChar
      if isName name then some (variable_ name, skip (s.drop name.length))
      else (natural? true s).map fun (n, rest) => (number (nearest n), skip rest)

end

/-- The expression that a text writes. -/
def read? (s : List Char) : Option Expression :=
  match whole? (10 * s.length + 20) s with
  | some (e, []) => some e
  | _ => none

/-- What an expression has assigned, the last first. -/
abbrev Assigned := List (List Char × Int64)

/-- The value of an expression and what it has assigned.  `look` gives the values of names, which
may be no numbers. -/
def evaluate? (look : List Char → Option Int64) : Expression → StateT Assigned Option Int64
  | .number n => pure n
  | .variable_ name => do
    match (← get).lookup name with
    | some n => pure n
    | none => StateT.lift (look name)
  | .negative e => do return -(← evaluate? look e)
  | .complement e => do return ~~~(← evaluate? look e)
  | .isZero e => do return Operation.truth ((← evaluate? look e) = 0)
  | .binary op a b => do
    let x ← evaluate? look a
    let y ← evaluate? look b
    StateT.lift (op.result? x y)
  | .both a b => do
    if (← evaluate? look a) = 0 then return 0
    return Operation.truth ((← evaluate? look b) ≠ 0)
  | .either a b => do
    if (← evaluate? look a) ≠ 0 then return 1
    return Operation.truth ((← evaluate? look b) ≠ 0)
  | .choice c yes no => do
    if (← evaluate? look c) ≠ 0 then evaluate? look yes else evaluate? look no
  | .assign name op e => do
    let n ← match op with
      | none => evaluate? look e
      | some op => do
        let x ← match (← get).lookup name with
          | some n => pure n
          | none => StateT.lift (look name)
        let y ← evaluate? look e
        StateT.lift (op.result? x y)
    modify fun assigned => (name, n) :: assigned.filter (·.1 != name)
    return n

end Expression

end Baseline.Script
