import Baseline.Text.Joining
import Baseline.Text.Ranges
import Baseline.Text.Unmarked

/-!
# Printable characters

The characters that are shown as they are inside quotes: all but those that leave no
mark and those that join the character before them.
-/

namespace Baseline.Text

/-- Whether a character is shown as it is. -/
def isPrintable (c : Char) : Bool :=
  !inRanges unmarkedRanges c.toNat && !inRanges joiningRanges c.toNat

example : isPrintable ' ' = true := by decide +kernel
example : isPrintable 'é' = true := by decide +kernel
example : isPrintable '\u00a0' = false := by decide +kernel
example : isPrintable '\u200b' = false := by decide +kernel
example : isPrintable '\u3164' = false := by decide +kernel

end Baseline.Text
