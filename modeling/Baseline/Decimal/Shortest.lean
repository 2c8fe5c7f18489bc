import Baseline.Decimal.Binary

/-!
# The fewest digits that read back

A double is written with the fewest decimal digits that still round to it, and
of those the nearest.  For one, two, … digits the value's two neighbours on that
decimal grid are tested against the interval of numbers that round to the value
(ends included when the mantissa is even); the first grid with a hit wins.

How the digits are laid out is a `Style`.
-/

namespace Baseline.Decimal

/-- Digits with the power of ten of the first one: `0.d₁d₂… * 10 ^ point`. -/
structure Digits where
  digits : List Nat
  point : Int
deriving DecidableEq

/-- The numbers that round to a value, all times `scale`: ends, the value itself, and whether the
ends belong. -/
structure Interval where
  low : Nat
  value : Nat
  high : Nat
  scale : Nat
  closed : Bool

namespace Binary

/-- The numbers that round to a value. -/
def interval (b : Binary) : Interval :=
  let up := if 0 ≤ b.exponent then Nat.pow 2 b.exponent.toNat else 1
  let down := if 0 ≤ b.exponent then 1 else Nat.pow 2 (-b.exponent).toNat
  let gap := if b.mantissa = mantissaLimit / 2 ∧ lowestExponent < b.exponent then 1 else 2
  { low := (4 * b.mantissa - gap) * up
    value := 4 * b.mantissa * up
    high := (4 * b.mantissa + 2) * up
    scale := 4 * down
    closed := b.mantissa % 2 == 0 }

end Binary

namespace Interval

/-- Whether `c * 10 ^ power` is in the interval. -/
def holds (i : Interval) (c : Nat) (power : Int) : Bool :=
  let up := if 0 ≤ power then Nat.pow 10 power.toNat else 1
  let down := if 0 ≤ power then 1 else Nat.pow 10 (-power).toNat
  let x := c * up * i.scale
  if i.closed then i.low * down ≤ x && x ≤ i.high * down else i.low * down < x && x < i.high * down

/-- The value on the decimal grid of `10 ^ power`: the neighbour below, and twice the rest as
against the grid's width. -/
def below (i : Interval) (power : Int) : Nat × Nat × Nat :=
  let num := if 0 ≤ power then i.value else i.value * Nat.pow 10 (-power).toNat
  let den := if 0 ≤ power then i.scale * Nat.pow 10 power.toNat else i.scale
  (num / den, 2 * (num % den), den)

/-- The neighbour on the grid of `10 ^ power` that rounds to the value, if one does. -/
def neighbour? (i : Interval) (power : Int) : Option Nat :=
  let (c, twice, den) := i.below power
  let lower := 0 < c && i.holds c power
  let upper := i.holds (c + 1) power
  if lower && upper then
    some (if twice < den then c else if twice = den then c + c % 2 else c + 1)
  else if lower then some c
  else if upper then some (c + 1)
  else none

/-- The first grid with a hit, from `10 ^ power` down; at most `count` grids. -/
def search (i : Interval) : (count : Nat) → (power : Int) → Option (Nat × Int)
  | 0, _ => none
  | count + 1, power =>
    match i.neighbour? power with
    | some c => some (c, power)
    | none => i.search count (power - 1)

end Interval

/-- The decimal digits of a number, the highest first; none for zero. -/
def digitsOf (n : Nat) : List Nat :=
  if n = 0 then [] else digitsOf (n / 10) ++ [n % 10]
termination_by n
decreasing_by omega

/-- How many powers of ten a number below one has to be raised by to reach one. -/
def raise (num den : Nat) : Nat → Nat
  | 0 => 0
  | tries + 1 => if num < den then raise (num * 10) den tries + 1 else 0

/-- The digits of a number without zeros at their end. -/
def trimZeros (ds : List Nat) : List Nat := (ds.reverse.dropWhile (· = 0)).reverse

/-- The fewest digits that read back as a value. -/
def shortest (b : Binary) : Digits :=
  if b.mantissa = 0 then ⟨[], 0⟩
  else
    let i := b.interval
    let whole := i.value / i.scale
    let point : Int :=
      if 0 < whole then (digitsOf whole).length else 1 - (raise i.value i.scale 400 : Int)
    match i.search 18 (point - 1) with
    | some (c, power) =>
      let ds := digitsOf c
      ⟨trimZeros ds, power + ds.length⟩
    | none => ⟨[], 0⟩

/-- How digits are laid out. -/
structure Style where
  /-- The lowest power of ten of the first digit that is written without an exponent. -/
  lowest : Int
  /-- The highest such power. -/
  highest : Int

/-- Digits as characters. -/
def digitChars (ds : List Nat) : List Char := ds.map fun d => Char.ofNat (48 + d)

/-- A whole number as characters. -/
def wholeChars (n : Nat) : List Char := digitChars (if n = 0 then [0] else digitsOf n)

namespace Style

/-- Digits without an exponent; a whole number ends in `.0`. -/
def positional (d : Digits) : List Char :=
  if d.digits = [] then ['0', '.', '0']
  else if d.point ≤ 0 then
    ['0', '.'] ++ List.replicate (-d.point).toNat '0' ++ digitChars d.digits
  else
    let n := d.point.toNat
    let front := d.digits.take n ++ List.replicate (n - d.digits.length) 0
    let back := d.digits.drop n
    digitChars front ++ '.' :: (if back = [] then ['0'] else digitChars back)

/-- Digits with an exponent, which is always signed. -/
def scientific (d : Digits) : List Char :=
  let exponent := d.point - 1
  let sign := if exponent < 0 then '-' else '+'
  let mantissa :=
    match d.digits with
    | [] => ['0']
    | [x] => digitChars [x]
    | x :: more => digitChars [x] ++ '.' :: digitChars more
  mantissa ++ 'e' :: sign :: wholeChars exponent.natAbs

/-- The text of a double. -/
def text (style : Style) : Double → String
  | .notANumber => "NaN"
  | .infinite negative => if negative then "-inf" else "inf"
  | .finite negative b =>
    let d := shortest b
    let exponent := d.point - 1
    let body :=
      if d.digits = [] ∨ (style.lowest ≤ exponent ∧ exponent ≤ style.highest) then positional d
      else scientific d
    String.ofList ((if negative then ['-'] else []) ++ body)

/-- Never an exponent. -/
def plain : Style := ⟨-400, 400⟩

/-- An exponent below `10 ^ -5` and from `10 ^ 16` on. -/
def compact : Style := ⟨-5, 15⟩

end Style

end Baseline.Decimal
