import Baseline.Script.Field
import Baseline.Script.Number

/-!
# Conditions

The words of a condition hold, do not hold, or are no condition.  Texts and numbers are
compared, and paths are asked for what they name.
-/

namespace Baseline.Script.Condition

/-- What there is besides the files of the tree. -/
structure Surroundings where
  files : FileTree
  /-- Whether a path names a program of the system. -/
  isProgram : List Char → Bool

/-- Operators with one operand. -/
def unaries : List String := [
  "-e", "-f", "-d", "-r", "-w", "-x", "-s", "-h", "-L", "-p", "-S", "-b", "-c", "-u", "-g", "-k",
  "-O", "-G", "-t", "-n", "-z"]

/-- Operators between two operands. -/
def binaries : List String := [
  "=", "!=", "<", ">", "-eq", "-ne", "-gt", "-ge", "-lt", "-le", "-nt", "-ot", "-ef"]

/-- Whether a word is one of several. -/
def isOneOf (ws : List String) (a : List Char) : Bool := ws.any fun w => w.toList == a

/-- Whether an operator with one operand holds. -/
def holdsOf (w : Surroundings) (op a : List Char) : Bool :=
  let is (s : String) : Bool := op == s.toList
  let node := w.files.at? (pathOf a)
  let isNull := a == "/dev/null".toList
  if is "-n" then a ≠ []
  else if is "-z" then a = []
  else if is "-e" ∨ is "-r" ∨ is "-O" ∨ is "-G" then node.isSome || isNull || w.isProgram a
  else if is "-w" then node.isSome || isNull
  else if is "-c" then isNull
  else
    match node with
    | some .directory => is "-d" || is "-x" || is "-s"
    | some (.file data executable) =>
      is "-f" || (is "-x" && executable) || (is "-s" && !data.isEmpty)
    | none => w.isProgram a && (is "-f" || is "-x" || is "-s")

/-- Whether an operator between two operands holds; none when an operand is no number. -/
def holdsBetween? (w : Surroundings) (a op b : List Char) : Option Bool :=
  let is (s : String) : Bool := op == s.toList
  let numbers (f : Int → Int → Bool) : Option Bool := do
    return f (← integer? false a) (← integer? false b)
  if is "=" then some (a == b)
  else if is "!=" then some (a != b)
  else if is "<" then some ((bytesOf a).before (bytesOf b))
  else if is ">" then some ((bytesOf b).before (bytesOf a))
  else if is "-eq" then numbers fun x y => x = y
  else if is "-ne" then numbers fun x y => x ≠ y
  else if is "-lt" then numbers fun x y => x < y
  else if is "-le" then numbers fun x y => x ≤ y
  else if is "-gt" then numbers fun x y => y < x
  else if is "-ge" then numbers fun x y => y ≤ x
  else
    let located (p : List Char) : Option Location := (w.files.locate (pathOf p)).toOption
    match located a, located b with
    | some x, some y => some (is "-ef" && x == y)
    | some _, none => some (is "-nt")
    | none, some _ => some (is "-ot")
    | none, none => some false

/-- What a word is where an operand may begin. -/
inductive Role
  | nothing
  | operand
  | unary
  | negation
  | opening
  | closing
deriving DecidableEq

/-- What the first of several words is.  An operator that has nothing to work on, or that is
compared, is an operand. -/
def roleOf : List (List Char) → Role
  | [] => .nothing
  | a :: rest =>
    if a = ['!'] then .negation
    else if a = ['('] then if rest.isEmpty then .operand else .opening
    else if a = [')'] then .closing
    else if isOneOf unaries a then
      match rest with
      | [] => .operand
      | [_] => .unary
      | b :: _ => if isOneOf binaries b then .operand else .unary
    else .operand

mutual

/-- Whether one of several conditions holds, and the words after them.  The first argument bounds
the depth, here and below. -/
def either? (w : Surroundings) : Nat → List (List Char) → Option (Bool × List (List Char))
  | 0, _ => none
  | bound + 1, ws => do
    let (x, rest) ← both? w bound ws
    if rest.head? = some "-o".toList then do
      let (y, rest) ← either? w bound rest.tail
      some (x || y, rest)
    else some (x, rest)

/-- Whether all of several conditions hold, and the words after them. -/
def both? (w : Surroundings) : Nat → List (List Char) → Option (Bool × List (List Char))
  | 0, _ => none
  | bound + 1, ws => do
    let (x, rest) ← single? w bound ws
    if rest.head? = some "-a".toList then do
      let (y, rest) ← both? w bound rest.tail
      some (x && y, rest)
    else some (x, rest)

/-- Whether a condition holds, and the words after it. -/
def single? (w : Surroundings) : Nat → List (List Char) → Option (Bool × List (List Char))
  | 0, _ => none
  | bound + 1, ws =>
    match roleOf ws, ws with
    | .nothing, _ => some (false, [])
    | .negation, _ :: rest => do
      let (x, rest) ← single? w bound rest
      some (!x, rest)
    | .opening, _ :: rest =>
      if rest.head? = some [')'] then some (false, rest.tail)
      else do
        let (x, rest) ← either? w bound rest
        if rest.head? = some [')'] then some (x, rest.tail) else none
    | .unary, op :: a :: rest => some (holdsOf w op a, rest)
    | _, a :: op :: rest =>
      if isOneOf binaries op then
        match rest with
        | [] => none
        | b :: rest => (holdsBetween? w a op b).map fun x => (x, rest)
      else some (a ≠ [], op :: rest)
    | _, [a] => some (a ≠ [], [])
    | _, [] => some (false, [])

end

/-- Whether the words of a condition hold; none when they are no condition. -/
def holds? (w : Surroundings) (ws : List (List Char)) : Option Bool :=
  let general (ws : List (List Char)) : Option Bool :=
    match either? w (4 * ws.length + 4) ws with
    | some (x, []) => some x
    | _ => none
  match ws with
  | [] => some false
  | [a, op, b] =>
    if isOneOf binaries op then holdsBetween? w a op b
    else if a = ['('] ∧ b = [')'] then general [op]
    else general ws
  | ws => general ws

end Baseline.Script.Condition
