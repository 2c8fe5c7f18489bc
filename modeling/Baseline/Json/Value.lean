import Baseline.Decimal.Shortest
import Baseline.Mismatch

/-!
# JSON values

Values as they are read and written: numbers know whether they are whole, and
objects keep the order of their members, repeated names included.
-/

namespace Baseline.Json

/-- A number. -/
inductive Number
  /-- A whole number below `2 ^ 64`. -/
  | natural (n : Nat)
  /-- A negative whole number, by its magnitude. -/
  | negative (n : Nat)
  /-- Any other. -/
  | float (d : Decimal.Double)
deriving DecidableEq

/-- A value. -/
inductive Value
  | null
  | bool (b : Bool)
  | number (n : Number)
  | string (s : String)
  | array (elements : List Value)
  | object (members : List (String × Value))

/-! ### Writing -/

/-- The characters of a number. -/
def Number.write : Number → List Char
  | .natural n => Nat.toDigits 10 n
  | .negative n => '-' :: Nat.toDigits 10 n
  | .float d => (Decimal.Style.compact.text d).toList

/-- A control character by its code. -/
def codeEscape (n : Nat) : List Char :=
  ['\\', 'u', '0', '0', Nat.digitChar (n / 16), Nat.digitChar (n % 16)]

/-- A character inside a string: only quotes, backslashes and controls are escaped. -/
def writeChar (c : Char) : List Char :=
  if c = '"' then ['\\', '"']
  else if c = '\\' then ['\\', '\\']
  else if c = '\x08' then ['\\', 'b']
  else if c = '\t' then ['\\', 't']
  else if c = '\n' then ['\\', 'n']
  else if c = '\x0c' then ['\\', 'f']
  else if c = '\r' then ['\\', 'r']
  else if c.toNat < 32 then codeEscape c.toNat
  else [c]

/-- A string in quotes. -/
def writeString (s : String) : List Char := '"' :: s.toList.flatMap writeChar ++ ['"']

mutual

/-- A value without blanks. -/
def Value.write : Value → List Char
  | .null => "null".toList
  | .bool true => "true".toList
  | .bool false => "false".toList
  | .number n => n.write
  | .string s => writeString s
  | .array vs => '[' :: writeElements vs ++ [']']
  | .object ms => '\x7b' :: writeMembers ms ++ ['\x7d']

/-- Values with commas between them. -/
def writeElements : List Value → List Char
  | [] => []
  | [v] => v.write
  | v :: rest => v.write ++ ',' :: writeElements rest

/-- Members with commas between them. -/
def writeMembers : List (String × Value) → List Char
  | [] => []
  | [(k, v)] => writeString k ++ ':' :: v.write
  | (k, v) :: rest => writeString k ++ ':' :: v.write ++ ',' :: writeMembers rest

end

/-! ### Reporting -/

/-- What a number is reported as. -/
def Number.found : Number → Found
  | .natural n => .integer n
  | .negative n => .integer (-(n : Int))
  | .float d => .float (Decimal.Style.compact.text d)

/-- What a value is reported as. -/
def Value.found : Value → Found
  | .null => .null
  | .bool b => .boolean b
  | .number n => n.found
  | .string s => .string s
  | .array _ => .sequence
  | .object _ => .map

end Baseline.Json
