/-!
# Byte strings

File contents, tool output and path names are byte strings: nothing says that
they are text.  A byte string is a list, so that the lemmas on lists apply to it
as they stand.
-/

namespace Baseline

/-- A byte string. -/
abbrev Bytes := List UInt8

/-- The lower-case hexadecimal digit of a number below 16. -/
def hexDigit (n : Nat) : Char :=
  if n < 10 then Char.ofNat ('0'.toNat + n) else Char.ofNat ('a'.toNat + (n - 10))

namespace Bytes

/-- Two lower-case hexadecimal digits for each byte, the high half first. -/
def hexDigits (b : Bytes) : List Char :=
  b.flatMap fun x => [hexDigit (x.toNat / 16), hexDigit (x.toNat % 16)]

/-- A byte string written in lower-case hexadecimal. -/
def toHex (b : Bytes) : String :=
  String.ofList (hexDigits b)

/-- How many leading bytes two byte strings share. -/
def sharedLength : Bytes → Bytes → Nat
  | x :: xs, y :: ys => if x = y then sharedLength xs ys + 1 else 0
  | _, _ => 0

/-- The order of byte strings, byte by byte and the shorter first. -/
def before : Bytes → Bytes → Bool
  | [], [] => false
  | [], _ :: _ => true
  | _ :: _, [] => false
  | x :: xs, y :: ys => if x = y then before xs ys else x < y

end Bytes

end Baseline
