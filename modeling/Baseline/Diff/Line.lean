import Baseline.Bytes

/-!
# Lines

A line ends after a line feed, after a carriage return and line feed, or after a
carriage return alone; the last line may lack an end.  Lines keep their ends, so
the lines of a byte string laid end to end are that byte string
(`flatten_lines`).
-/

namespace Baseline.Diff

/-- The line feed. -/
def lineFeed : UInt8 := 10

/-- The carriage return. -/
def carriageReturn : UInt8 := 13

/-- A byte put in front of the first of some lines. -/
def prepend (b : UInt8) : List Bytes → List Bytes
  | [] => [[b]]
  | l :: more => (b :: l) :: more

/-- The lines of a byte string, each with its end. -/
def lines : Bytes → List Bytes
  | [] => []
  | [b] => [[b]]
  | b :: c :: rest =>
    if b = lineFeed then [b] :: lines (c :: rest)
    else if b = carriageReturn then
      if c = lineFeed then [b, c] :: lines rest else [b] :: lines (c :: rest)
    else prepend b (lines (c :: rest))

/-- Whether a line has its end. -/
def isTerminated (l : Bytes) : Bool :=
  match l.getLast? with
  | some b => b == lineFeed || b == carriageReturn
  | none => false

theorem flatten_prepend (b : UInt8) (ls : List Bytes) :
    (prepend b ls).flatten = b :: ls.flatten := by
  cases ls <;> simp [prepend]

theorem flatten_lines (s : Bytes) : (lines s).flatten = s := by
  fun_induction lines s <;> simp_all [flatten_prepend]

end Baseline.Diff
