import Baseline.Decimal.Binary
import Baseline.Toml.Moment
import Baseline.Toml.Text

/-!
# Scalars

What a word stands for as a value: a text, a truth value, a number or a date
with or without a time.  Whole numbers have any size here.  Of a number with a
fraction or an exponent the digits are kept; `Fraction.double?` rounds it, and
fails when it is too large.

The first characters of a bare word say what it should be.  Only a date and a time may have a blank
between them: any other word with blanks is a text that lacks its quotes.  A word that begins as a
whole number is taken for one when its first underscore stands after its first digits, or when the
mark of a base is all there is.  Whether it writes a number is another matter: it is noticed when
the number is asked for.
-/

namespace Baseline.Toml

/-- A decimal number `digits * 10 ^ exponent` with its sign. -/
structure Fraction where
  negative : Bool
  digits : Nat
  exponent : Int
deriving DecidableEq

/-- A value without parts. -/
inductive Scalar
  | text (s : String)
  | boolean (b : Bool)
  /-- A whole number; none when what is written is no number. -/
  | integer (n : Option Int)
  | fraction (f : Fraction)
  | infinite (negative : Bool)
  | notANumber
  | moment
deriving DecidableEq

namespace Fraction

/-- The nearest double; none when there is none that large. -/
def double? (f : Fraction) : Option Decimal.Double :=
  let size : Int := (Nat.toDigits 10 f.digits).length + f.exponent
  if f.digits = 0 ∨ size < -330 then some (.finite f.negative .zero)
  else if 330 < size then none
  else
    let num := f.digits * Nat.pow 10 f.exponent.toNat
    let den := Nat.pow 10 (-f.exponent).toNat
    (Decimal.Binary.nearest? num den).map (.finite f.negative)

/-- The number that digits write with a point or an exponent among them, without underscores. -/
def ofDigits (negative : Bool) (s : List Char) : Fraction :=
  let whole := s.takeWhile Char.isDigit
  let rest := s.dropWhile Char.isDigit
  let part := if rest.head? = some '.' then rest.tail.takeWhile Char.isDigit else []
  let power := (rest.dropWhile fun c => c != 'e' && c != 'E').tail
  let size : Int := decimalNumber (power.filter Char.isDigit)
  let exponent := if power.head? = some '-' then -size else size
  ⟨negative, decimalNumber (whole ++ part), exponent - part.length⟩

end Fraction

/-- The whole number that digits of a base write, without underscores. -/
def wholeNumber? (base : Nat) (negative : Bool) (s : List Char) : Option Int :=
  let n : Int := baseNumber base s
  if s ≠ [] ∧ s.all fun c => (hexValue? c).any (· < base) then some (if negative then -n else n)
  else none

/-- Characters without their underscores. -/
def withoutUnderscores (s : List Char) : List Char := s.filter (· != '_')

/-! ### Checks -/

/-- The first underscore that does not stand between digits; `afterDigit` says whether a digit
stands in front of the characters. -/
def strayUnderscore? (isDigit : Char → Bool) (afterDigit : Bool) : Nat → List Char → Option Nat
  | _, [] => none
  | place, c :: rest =>
    if c = '_' ∧ !(afterDigit && rest.head?.any isDigit) then some place
    else strayUnderscore? isDigit (isDigit c) (place + 1) rest

/-- Check that underscores stand between digits. -/
def checkUnderscores (isDigit : Char → Bool) (c : Cursor) : Except Flaw Unit :=
  match strayUnderscore? isDigit false c.place c.rest with
  | some place => .error (Cause.underscore.ofCharacter place)
  | none => .ok ()

/-- Whether a character is a digit of some base. -/
def isAnyDigit (c : Char) : Bool := (hexValue? c).isSome

/-- Check that a whole number has no zero in front. -/
def checkNoZero (c : Cursor) : Except Flaw Unit :=
  if c.rest.head? = some '0' then .error (Cause.leadingZero.ofCharacter c.place) else .ok ()

/-- Past digits and underscores: a part of a number with a fraction or an exponent. -/
def skipDigits (zeros : Bool) (part : String) (c : Cursor) : Except Flaw Cursor :=
  let run := c.rest.takeWhile fun x => x.isDigit || x == '_'
  let count := (withoutUnderscores run).length
  if count = 0 then .error ((Cause.noDigits part).inFrontOf c.place)
  else if 1 < count ∧ run.head? = some '0' ∧ !zeros then
    .error (Cause.leadingZero.ofCharacter c.place)
  else .ok (c.skip run.length)

/-- Check the parts of a number with a fraction or an exponent. -/
def checkFraction (c : Cursor) : Except Flaw Unit := do
  let c ← skipDigits false "mantissa" c
  let c ← if c.rest.head? = some '.' then skipDigits true "fraction" c.next else pure c
  let c ←
    if c.rest.head?.any (fun x => x == 'e' || x == 'E') then
      let c := c.next
      let c := if c.rest.head?.any (fun x => x == '+' || x == '-') then c.next else c
      skipDigits true "exponent" c
    else pure c
  if c.rest = [] then return else .error ⟨.afterFloat, ⟨c.place, c.stop⟩⟩

/-! ### Bare words -/

namespace Word

/-- Whether there are blanks in a word, as between a date and a time. -/
def hasBlanks (w : Word) : Bool := w.raw.contains ' '

/-- Refuse a word that looks like a text without quotes. -/
def refuse {α : Type} (w : Word) : Except Flaw α :=
  let missing := [Quoting.literalLines, .basicLines, .literal, .basic].find? fun q =>
    q.quotes.isSuffixOf w.raw
  match missing with
  | some q => .error ((Cause.openingQuotes (String.ofList q.quotes)).inFrontOf w.start)
  | none => .error ⟨.unquoted, w.span⟩

/-- A number with a fraction or an exponent; `c` is behind its sign. -/
def fraction (w : Word) (negative : Bool) (c : Cursor) : Except Flaw Scalar := do
  checkFraction c
  checkUnderscores Char.isDigit ⟨w.start, w.raw⟩
  return .fraction (.ofDigits negative (withoutUnderscores c.rest))

/-- A whole number; `c` is behind its sign. -/
def whole (w : Word) (negative : Bool) (c : Cursor) : Except Flaw Scalar := do
  checkNoZero c
  checkUnderscores isAnyDigit ⟨w.start, w.raw⟩
  return .integer (wholeNumber? 10 negative (withoutUnderscores c.rest))

/-- A number or a moment; `c` is behind its sign.  What follows the first digits decides: a dash or
a colon goes on with a date or a time, a blank with nothing. -/
def numeric (w : Word) (negative : Bool) (c : Cursor) : Except Flaw Scalar :=
  match c.rest.dropWhile Char.isDigit with
  | [] => w.whole negative c
  | x :: rest =>
    if x = '-' ∨ x = ':' then
      match Moment.check w.raw with
      | .ok () => .ok .moment
      | .error cause => .error ⟨cause, w.span⟩
    else if (x :: rest).contains ' ' then w.refuse
    else if (x :: rest).any fun y => y = '.' || y = 'e' || y = 'E' then w.fraction negative c
    else if x = '_' then w.whole negative c
    else w.refuse

/-- A whole number in a base; `c` is at the zero of its mark. -/
def based (w : Word) (base : Base) (c : Cursor) : Except Flaw Scalar := do
  if w.hasBlanks then w.refuse
  if c.place ≠ w.start then .error (Cause.signedBase.ofCharacter w.start)
  if base = .decimal then .error ⟨.decimalMark, ⟨c.place, c.place + 2⟩⟩
  if c.next.rest.head? ≠ some base.letter then
    .error ⟨.capitalBase base, ⟨c.place, c.place + 2⟩⟩
  let digits := c.skip 2
  if digits.rest.head?.any fun x => x == '+' || x == '-' then
    .error (Cause.signAfterBase.ofCharacter digits.place)
  let isDigit (x : Char) : Bool := (hexValue? x).any (· < base.size)
  match digits.rest.findIdx? fun x => !isDigit x && x != '_' with
  | some i => .error ((Cause.baseDigit base).inFrontOf (digits.place + i))
  | none =>
    checkUnderscores isAnyDigit digits
    return .integer (wholeNumber? base.size false (withoutUnderscores digits.rest))

/-- What begins with a zero; `c` is at it. -/
def zeroed (w : Word) (negative : Bool) (c : Cursor) : Except Flaw Scalar :=
  match c.next.rest with
  | [] => .ok (.integer (some 0))
  | x :: _ =>
    let base? := [Base.hexadecimal, .octal, .binary, .decimal].find? fun b =>
      x == b.letter || x == b.letter.toUpper
    match base? with
    | some base => w.based base c
    | none => w.numeric negative c

/-- A word that stands for a value, which it has to be spelt like. -/
def symbol (w : Word) (kind name : String) (value : Scalar) : Except Flaw Scalar :=
  if w.raw = name.toList then .ok value
  else if w.hasBlanks then w.refuse
  else .error ⟨.misspelt kind name, w.span⟩

/-- A special number behind a sign, which it has to be spelt like. -/
def signedSymbol (w : Word) (name : String) (value : Scalar) (c : Cursor) : Except Flaw Scalar :=
  if c.rest = name.toList then .ok value
  else .error ⟨.misspelt "float" name, ⟨c.place, w.span.stop⟩⟩

/-- What stands behind a sign. -/
def signed (w : Word) (negative : Bool) (c : Cursor) : Except Flaw Scalar :=
  match c.rest with
  | [] => w.refuse
  | x :: _ =>
    if x = '0' then w.zeroed negative c
    else if x.isDigit ∨ x = '_' then w.numeric negative c
    else if w.hasBlanks then w.refuse
    else if x = '+' ∨ x = '-' then .error (Cause.secondSign.ofCharacter c.place)
    else if x = '.' then w.fraction negative c
    else if x = 'i' ∨ x = 'I' then w.signedSymbol "inf" (.infinite negative) c
    else if x = 'n' ∨ x = 'N' then w.signedSymbol "nan" .notANumber c
    else w.refuse

/-- What a bare word stands for. -/
def bare (w : Word) : Except Flaw Scalar :=
  let c : Cursor := ⟨w.start, w.raw⟩
  match c.rest with
  | [] => w.refuse
  | x :: _ =>
    if x = '+' ∨ x = '-' then w.signed (x == '-') c.next
    else if x = '0' then w.zeroed false c
    else if x.isDigit ∨ x = '_' then w.numeric false c
    else if x = '.' then if w.hasBlanks then w.refuse else w.fraction false c
    else if x = 't' ∨ x = 'T' then w.symbol "boolean" "true" (.boolean true)
    else if x = 'f' ∨ x = 'F' then w.symbol "boolean" "false" (.boolean false)
    else if x = 'i' ∨ x = 'I' then w.symbol "float" "inf" (.infinite false)
    else if x = 'n' ∨ x = 'N' then w.symbol "float" "nan" .notANumber
    else w.refuse

/-- The value of a word. -/
def scalar (w : Word) : Except Flaw Scalar :=
  if w.quoting = .bare then w.bare else Scalar.text <$> w.quoted

end Word

end Baseline.Toml
