/-!
# Blank characters

The characters with the Unicode property `White_Space`, and trimming by them.
U+200B, U+FEFF and the separators U+001C to U+001F lack the property.
-/

namespace Baseline.Text

/-- The ranges of `White_Space`, in order. -/
def blankRanges : List (Nat × Nat) :=
  [(0x09, 0x0D), (0x20, 0x20), (0x85, 0x85), (0xA0, 0xA0), (0x1680, 0x1680), (0x2000, 0x200A),
   (0x2028, 0x2029), (0x202F, 0x202F), (0x205F, 0x205F), (0x3000, 0x3000)]

/-- Whether a character has the property `White_Space`. -/
def isBlank (c : Char) : Bool :=
  blankRanges.any fun r => r.1 ≤ c.toNat && c.toNat ≤ r.2

/-- A text without the blank characters at its two ends. -/
def trimChars (s : List Char) : List Char :=
  ((s.dropWhile isBlank).reverse.dropWhile isBlank).reverse

/-- A text without the blank characters at its two ends. -/
def trim (s : String) : String :=
  String.ofList (trimChars s.toList)

end Baseline.Text
