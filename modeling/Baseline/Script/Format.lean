import Baseline.Decimal.Binary
import Baseline.Script.Number

/-!
# Escapes and formats

`Format.echoed` reads the escapes of a text.  `Format.fill` puts arguments into the places
of a format, again and again until all are used; a format is filled once even
without arguments.
-/

namespace Baseline.Script.Format

/-! ### Escapes -/

/-- The value of up to `count` octal digits in front, and the text after them. -/
def octal (count : Nat) (s : List Char) : Char × List Char :=
  let ds := (s.take count).takeWhile (isDigitIn 8)
  (Char.ofNat (ofDigits 8 ds % 256), s.drop ds.length)

/-- The character that an escape stands for and the text after it; a backslash that starts no escape
stands for itself. -/
def escape (s : List Char) : Char × List Char :=
  match s with
  | 'a' :: rest => ('\x07', rest)
  | 'b' :: rest => ('\x08', rest)
  | 'e' :: rest => ('\x1b', rest)
  | 'f' :: rest => ('\x0c', rest)
  | 'n' :: rest => ('\n', rest)
  | 'r' :: rest => ('\r', rest)
  | 't' :: rest => ('\t', rest)
  | 'v' :: rest => ('\x0b', rest)
  | '\\' :: rest => ('\\', rest)
  | d :: _ => if isDigitIn 8 d then octal 3 s else ('\\', s)
  | [] => ('\\', s)

/-- A text with its escapes read, and whether it asks to end there.  A zero may stand before the
octal digits.  The first argument bounds the number of steps. -/
def echoedWithin : Nat → List Char → List Char × Bool
  | 0, _ => ([], false)
  | _ + 1, [] => ([], false)
  | bound + 1, c :: rest =>
    let more (found : Char × List Char) : List Char × Bool :=
      let (text, ends) := echoedWithin bound found.2
      (found.1 :: text, ends)
    if c = '\\' then
      match rest with
      | 'c' :: _ => ([], true)
      | '0' :: d :: rest => more (escape (if isDigitIn 8 d then d :: rest else '0' :: d :: rest))
      | rest => more (escape rest)
    else more (c, rest)

/-- A text with its escapes read, and whether it asks to end there. -/
def echoed (s : List Char) : List Char × Bool := echoedWithin (s.length + 1) s

/-! ### Layout -/

/-- How a value is laid out. -/
structure Layout where
  leftward : Bool
  plus : Bool
  blank : Bool
  alternative : Bool
  zeros : Bool
  width : Nat
  precision : Option Nat

namespace Layout

/-- A text of at least the width. -/
def padded (l : Layout) (s : List Char) : List Char :=
  let gap := List.replicate (l.width - s.length) ' '
  if l.leftward then s ++ gap else gap ++ s

/-- A text, cut to the precision. -/
def text (l : Layout) (s : List Char) : List Char :=
  l.padded (match l.precision with
    | some p => s.take p
    | none => s)

/-- A sign in front of what is not negative. -/
def sign (l : Layout) (negative : Bool) : List Char :=
  if negative then ['-'] else if l.plus then ['+'] else if l.blank then [' '] else []

/-- What stands in front of digits and the digits, with zeros between them up to the width when
`zeros`. -/
def joined (l : Layout) (zeros : Bool) (front digits : List Char) : List Char :=
  if zeros ∧ !l.leftward then
    front ++ List.replicate (l.width - front.length - digits.length) '0' ++ digits
  else l.padded (front ++ digits)

/-- Digits of at least the precision; zero has none when the precision is zero. -/
def precise (l : Layout) (base n : Nat) : List Char :=
  let ds := if n = 0 ∧ l.precision = some 0 then [] else Nat.toDigits base n
  List.replicate (l.precision.getD 1 - ds.length) '0' ++ ds

/-- A number with its sign. -/
def signed (l : Layout) (n : Int) : List Char :=
  l.joined (l.zeros && l.precision.isNone) (l.sign (n < 0)) (l.precise 10 n.natAbs)

/-- A number without a sign in a base. -/
def unsigned (l : Layout) (base : Nat) (upper : Bool) (n : Nat) : List Char :=
  let ds := l.precise base n
  let ds := if l.alternative ∧ base = 8 ∧ ds.head? ≠ some '0' then '0' :: ds else ds
  let front : List Char := if l.alternative ∧ base = 16 ∧ n ≠ 0 then ['0', 'x'] else []
  let text := l.joined (l.zeros && l.precision.isNone) front ds
  if upper then text.map Char.toUpper else text

end Layout

/-! ### Fractions -/

/-- A power of ten. -/
def ten (n : Nat) : Nat := Nat.pow 10 n

/-- A ratio with a number of decimal places. -/
def placed (num den places : Nat) (pointAlways : Bool) : List Char :=
  let n := Decimal.Binary.roundDiv (num * ten places) den
  let ds := Nat.toDigits 10 n
  let ds := List.replicate (places + 1 - ds.length) '0' ++ ds
  let front := ds.take (ds.length - places)
  if places = 0 then front ++ (if pointAlways then ['.'] else [])
  else front ++ '.' :: ds.drop (ds.length - places)

/-- The power of ten of the first digit of a ratio.  The first argument bounds how often the ratio
is changed by ten. -/
def magnitude : Nat → Nat → Nat → Int
  | 0, _, _ => 0
  | bound + 1, num, den =>
    if num < den then magnitude bound (num * 10) den - 1
    else if den * 10 ≤ num then magnitude bound num (den * 10) + 1
    else 0

/-- The digits of a ratio after rounding, one before the point and `places` after it, and the power
of ten of the first. -/
def leading (num den places : Nat) : List Char × Int :=
  if num = 0 then (List.replicate (places + 1) '0', 0)
  else
    let e := magnitude 800 num den
    let shift := (places : Int) - e
    let n := if 0 ≤ shift then Decimal.Binary.roundDiv (num * ten shift.toNat) den
      else Decimal.Binary.roundDiv num (den * ten (-shift).toNat)
    if ten (places + 1) ≤ n then (Nat.toDigits 10 (n / 10), e + 1) else (Nat.toDigits 10 n, e)

/-- A ratio with a power of ten. -/
def scientific (num den places : Nat) (pointAlways : Bool) : List Char × Int :=
  let (ds, e) := leading num den places
  (ds.take 1 ++ (if places = 0 ∧ !pointAlways then [] else '.' :: ds.drop 1), e)

/-- A power of ten in writing, with two digits at least. -/
def powerText (e : Int) : List Char :=
  let ds := Nat.toDigits 10 e.natAbs
  'e' :: (if e < 0 then '-' else '+') :: (List.replicate (2 - ds.length) '0' ++ ds)

/-- A text without zeros at its end, and without a point that is left there. -/
def withoutZeros (s : List Char) : List Char :=
  if s.contains '.' then
    match s.reverse.dropWhile (· == '0') with
    | '.' :: rest => rest.reverse
    | rest => rest.reverse
  else s

/-- A ratio as the conversion `f`, `e` or `g` writes it. -/
def fraction (l : Layout) (conversion : Char) (num den : Nat) : List Char :=
  let places := l.precision.getD 6
  if conversion = 'f' then placed num den places l.alternative
  else if conversion = 'e' then
    let (s, e) := scientific num den places l.alternative
    s ++ powerText e
  else
    let digits := max places 1
    let (s, e) := scientific num den (digits - 1) l.alternative
    let trim (s : List Char) : List Char := if l.alternative then s else withoutZeros s
    if -4 ≤ e ∧ e < digits then trim (placed num den ((digits : Int) - 1 - e).toNat l.alternative)
    else trim s ++ powerText e

/-- The ratio that a decimal number in front writes, and the text after it. -/
def decimal? (s : List Char) : Option ((Nat × Nat) × List Char) :=
  let whole := s.takeWhile Char.isDigit
  let rest := s.drop whole.length
  let (part, rest) := match rest with
    | '.' :: rest => (rest.takeWhile Char.isDigit, rest.dropWhile Char.isDigit)
    | rest => ([], rest)
  if whole ++ part = [] then none
  else
    let scaled (power : Int) : Nat × Nat :=
      let shift := max (-5000) (min 5000 (power - part.length))
      let n := ofDigits 10 (whole ++ part)
      if 0 ≤ shift then (n * ten shift.toNat, 1) else (n, ten (-shift).toNat)
    let power? : Option (Int × List Char) := match rest with
      | e :: rest =>
        if e = 'e' ∨ e = 'E' then
          if rest.head?.any isSpace then none else signed? false rest
        else none
      | [] => none
    match power? with
    | some (power, rest) => some (scaled power, rest)
    | none => some (scaled 0, rest)

/-- A value of the conversions `f`, `e` and `g`, and whether it was one. -/
def real (l : Layout) (conversion : Char) (a : List Char) : List Char × Bool :=
  let a := a.dropWhile isSpace
  let (negative, body) := match a with
    | '-' :: rest => (true, rest)
    | '+' :: rest => (false, rest)
    | rest => (false, rest)
  let lower := conversion.toLower
  let finish (zeros : Bool) (s : List Char) : List Char :=
    let s := l.joined (l.zeros && zeros) (l.sign negative) s
    if conversion.isUpper then s.map Char.toUpper else s
  match decimal? body with
  | some ((num, den), rest) =>
    match Decimal.Binary.nearest? num den with
    | some b => (finish true (fraction l lower b.ratio.1 b.ratio.2), rest.isEmpty)
    | none => (finish false "inf".toList, false)
  | none =>
    let word := body.map Char.toLower
    if word = "inf".toList ∨ word = "infinity".toList then (finish false "inf".toList, true)
    else if word = "nan".toList then (finish false "nan".toList, true)
    else (finish true (fraction l lower 0 1), a.isEmpty)

/-! ### Conversions -/

/-- One more than the largest number of 64 bits without a sign. -/
def wordLimit : Int := 18446744073709551616

/-- The number that an argument writes, and whether it is written well; a quote gives the code of
the character after it. -/
def numberOf (withSign : Bool) (a : List Char) : Int × Bool :=
  match a with
  | '\'' :: rest | '"' :: rest =>
    ((rest.head?.map fun c => (c.toNat : Int)).getD 0, rest.length ≤ 1)
  | a =>
    match signed? true a with
    | none => (0, a.isEmpty)
    | some (n, rest) =>
      if withSign then
        let fits := -largest - 1 ≤ n && n ≤ largest
        (max (-largest - 1) (min largest n), rest.isEmpty && fits)
      else if wordLimit ≤ n.natAbs then (wordLimit - 1, false)
      else (n % wordLimit, rest.isEmpty)

/-- The flags in front and the text after them. -/
def flags (l : Layout) : List Char → Layout × List Char
  | '-' :: rest => flags { l with leftward := true } rest
  | '+' :: rest => flags { l with plus := true } rest
  | ' ' :: rest => flags { l with blank := true } rest
  | '#' :: rest => flags { l with alternative := true } rest
  | '0' :: rest => flags { l with zeros := true } rest
  | rest => (l, rest)

/-- A number of the layout: digits, or a star that takes an argument.  Gives the number, the text
and the arguments after it. -/
def size (s : List Char) (args : List (List Char)) : Int × List Char × List (List Char) :=
  match s with
  | '*' :: rest => ((numberOf true (args.headD [])).1, rest, args.tail)
  | s =>
    let ds := s.takeWhile Char.isDigit
    ((ofDigits 10 ds : Int), s.drop ds.length, args)

/-- The layout after a percent sign, and the text and the arguments after it. -/
def layout (s : List Char) (args : List (List Char)) : Layout × List Char × List (List Char) :=
  let (l, s) := flags ⟨false, false, false, false, false, 0, none⟩ s
  let (width, s, args) := size s args
  let l := { l with width := width.natAbs, leftward := l.leftward || width < 0 }
  match s with
  | '.' :: s =>
    let (precision, s, args) := size s args
    ({ l with precision := if precision < 0 then none else some precision.toNat }, s, args)
  | s => (l, s, args)

/-- An argument as a conversion shows it, whether it was sound and whether the output ends with it;
none when there is no such conversion. -/
def convert? (l : Layout) (conversion : Char) (a : List Char) : Option (List Char × Bool × Bool) :=
  if conversion = 's' then some (l.text a, true, false)
  else if conversion = 'c' then some (l.padded [a.headD '\x00'], true, false)
  else if conversion = 'b' then
    let (s, ends) := echoed a
    some (l.text s, true, ends)
  else if conversion = 'd' ∨ conversion = 'i' then
    let (n, sound) := numberOf true a
    some (l.signed n, sound, false)
  else if "ouxX".toList.contains conversion then
    let (n, sound) := numberOf false a
    let base := if conversion = 'o' then 8 else if conversion = 'u' then 10 else 16
    some (l.unsigned base (conversion = 'X') n.toNat, sound, false)
  else if "feEgGF".toList.contains conversion then
    let (s, sound) := real l conversion a
    some (s, sound, false)
  else none

/-! ### Filling -/

/-- What a format has written, and how it went. -/
structure Filled where
  text : List Char
  /-- The arguments that are left. -/
  left : List (List Char)
  status : Nat
  /-- Nothing more is written. -/
  ended : Bool

/-- Fill a format once.  The first argument bounds the number of steps. -/
def fillOnce : Nat → List Char → List (List Char) → Filled
  | 0, _, args => ⟨[], args, 0, false⟩
  | _ + 1, [], args => ⟨[], args, 0, false⟩
  | bound + 1, c :: rest, args =>
    let more (text rest : List Char) (args : List (List Char)) (sound : Bool) : Filled :=
      let f := fillOnce bound rest args
      { f with text := text ++ f.text, status := if sound then f.status else max f.status 1 }
    if c = '\\' then
      let (d, rest) := escape rest
      more [d] rest args true
    else if c = '%' then
      match rest with
      | '%' :: rest => more ['%'] rest args true
      | rest =>
        let (l, rest, args) := layout rest args
        match rest with
        | [] => ⟨[], [], 2, true⟩
        | conversion :: rest =>
          match convert? l conversion (args.headD []) with
          | none => ⟨[], [], 2, true⟩
          | some (text, _, true) => ⟨text, [], 0, true⟩
          | some (text, sound, false) => more text rest args.tail sound
    else more [c] rest args true

/-- Fill a format until all arguments are used.  The first argument bounds the number of rounds. -/
def fillWithin : Nat → List Char → List (List Char) → List Char × Nat
  | 0, _, _ => ([], 0)
  | bound + 1, format, args =>
    let f := fillOnce (format.length + 1) format args
    if !f.ended ∧ f.left ≠ [] ∧ f.left.length < args.length then
      let (text, status) := fillWithin bound format f.left
      (f.text ++ text, max f.status status)
    else (f.text, f.status)

/-- What a format writes with its arguments, and how it went. -/
def fill (format : List Char) (args : List (List Char)) : List Char × Nat :=
  fillWithin (args.length + 1) format args

end Baseline.Script.Format
