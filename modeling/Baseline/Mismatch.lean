import Baseline.Text.Printable

/-!
# Mismatches

How a well-formed document fails to be what is asked for: a field is missing or
there twice, a value has another type, a name is none of the known ones.
-/

namespace Baseline

/-- What was found where something else was expected. -/
inductive Found
  | integer (n : Int)
  /-- A whole number of up to 128 bits, one of which is a sign or not. -/
  | wideInteger (n : Int) (signed : Bool)
  /-- A number with a fraction or an exponent, by its text. -/
  | float (text : String)
  | boolean (b : Bool)
  | string (s : String)
  | null
  | sequence
  | map
deriving DecidableEq

/-- A hexadecimal digit string without zeros in front. -/
def hexText (n : Nat) : String := String.ofList (Nat.toDigits 16 n)

/-- A character as it is shown inside quotes; what is not printable is shown by its code. -/
def quotedChar (c : Char) : List Char :=
  if c = '"' then ['\\', '"']
  else if c = '\\' then ['\\', '\\']
  else if c = '\n' then ['\\', 'n']
  else if c = '\r' then ['\\', 'r']
  else if c = '\t' then ['\\', 't']
  else if c = '\x00' then ['\\', '0']
  else if Text.isPrintable c then [c]
  else "\\u".toList ++ '\x7b' :: (hexText c.toNat).toList ++ ['\x7d']

/-- A text in quotes. -/
def quoted (s : String) : String := String.ofList ('"' :: s.toList.flatMap quotedChar ++ ['"'])

namespace Found

/-- The wording of what was found. -/
def message : Found → String
  | .integer n => "integer `" ++ toString n ++ "`"
  | .wideInteger n signed =>
    "integer `" ++ toString n ++ (if signed then "` as i128" else "` as u128")
  | .float text => "floating point `" ++ text ++ "`"
  | .boolean b => "boolean `" ++ (if b then "true" else "false") ++ "`"
  | .string s => "string " ++ quoted s
  | .null => "null"
  | .sequence => "sequence"
  | .map => "map"

end Found

/-- How a document fails to be what is asked for. -/
inductive Mismatch
  | missingField (name : String)
  | duplicateField (name : String)
  | unknownField (given : String) (known : List String)
  | unknownVariant (given : String) (known : List String)
  | invalidType (found : Found) (expected : String)
  | invalidValue (found : Found) (expected : String)
  | invalidLength (length : Nat) (expected : String)
  /-- A text is refused, for the reason given. -/
  | refused (reason : String)
deriving DecidableEq

/-- A choice of names: one, either of two, or one of a list. -/
def choiceText : List String → String
  | [a] => "`" ++ a ++ "`"
  | [a, b] => "`" ++ a ++ "` or `" ++ b ++ "`"
  | names => "one of " ++ String.intercalate ", " (names.map fun n => "`" ++ n ++ "`")

namespace Mismatch

/-- The wording of a mismatch. -/
def message : Mismatch → String
  | .missingField name => "missing field `" ++ name ++ "`"
  | .duplicateField name => "duplicate field `" ++ name ++ "`"
  | .unknownField given known => "unknown field `" ++ given ++ "`, expected " ++ choiceText known
  | .unknownVariant given known =>
    "unknown variant `" ++ given ++ "`, expected " ++ choiceText known
  | .invalidType found expected => "invalid type: " ++ found.message ++ ", expected " ++ expected
  | .invalidValue found expected => "invalid value: " ++ found.message ++ ", expected " ++ expected
  | .invalidLength n expected => "invalid length " ++ toString n ++ ", expected " ++ expected
  | .refused reason => reason

end Mismatch

end Baseline
