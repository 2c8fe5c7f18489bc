/-!
# Binary floating point, exactly

A finite non-negative double is a mantissa below `2 ^ 53` times a power of two.
`nearest?` rounds a ratio of natural numbers to the nearest such value, a tie to
the even mantissa, in exact arithmetic on natural numbers; it answers nothing
when the ratio is past the largest value.
-/

namespace Baseline.Decimal

/-- The value `mantissa * 2 ^ exponent`. -/
structure Binary where
  mantissa : Nat
  exponent : Int
deriving DecidableEq

namespace Binary

/-- The smallest exponent. -/
def lowestExponent : Int := -1074

/-- The largest exponent. -/
def highestExponent : Int := 971

/-- One more than the largest mantissa. -/
def mantissaLimit : Nat := Nat.pow 2 53

/-- Zero. -/
def zero : Binary := ⟨0, lowestExponent⟩

/-- A quotient rounded to the nearest number, a tie to the even one. -/
def roundDiv (num den : Nat) : Nat :=
  let q := num / den
  let r := num % den
  if 2 * r < den then q else if 2 * r = den then q + q % 2 else q + 1

/-- A ratio divided by a power of two and rounded. -/
def roundAt (num den : Nat) (exponent : Int) : Nat :=
  if 0 ≤ exponent then roundDiv num (den * Nat.pow 2 exponent.toNat)
  else roundDiv (num * Nat.pow 2 (-exponent).toNat) den

/-- The nearest value to `num / den`; none past the largest. -/
def nearest? (num den : Nat) : Option Binary :=
  if num = 0 then some zero
  else
    let guess : Int := (num.log2 : Int) - (den.log2 : Int) - 52
    let low : Int := max (guess - 1) lowestExponent
    let m := roundAt num den low
    let first : Binary :=
      if m < mantissaLimit then ⟨m, low⟩
      else
        let m' := roundAt num den (low + 1)
        if m' < mantissaLimit then ⟨m', low + 1⟩ else ⟨mantissaLimit / 2, low + 2⟩
    if first.exponent ≤ highestExponent then some first else none

/-- The value as a ratio. -/
def ratio (b : Binary) : Nat × Nat :=
  if 0 ≤ b.exponent then (b.mantissa * Nat.pow 2 b.exponent.toNat, 1)
  else (b.mantissa, Nat.pow 2 (-b.exponent).toNat)

/-- The rounded product. -/
def mul? (a b : Binary) : Option Binary :=
  nearest? (a.ratio.1 * b.ratio.1) (a.ratio.2 * b.ratio.2)

/-- The rounded quotient. -/
def div? (a b : Binary) : Option Binary :=
  nearest? (a.ratio.1 * b.ratio.2) (a.ratio.2 * b.ratio.1)

end Binary

/-- A double: a sign with a finite magnitude, an infinity, or no number. -/
inductive Double
  | finite (negative : Bool) (magnitude : Binary)
  | infinite (negative : Bool)
  | notANumber
deriving DecidableEq

end Baseline.Decimal
