import Baseline.Text.Blank

/-!
# Timestamps

A moment in universal time, to the nanosecond, on the proleptic Gregorian
calendar.  A leap second is the sixtieth second of its minute and is kept.

Reading is lenient about blanks around the separators, about digits past the
ninth of a second and about the form of the offset; writing is exact: the
fraction has the fewest of 0, 3, 6 and 9 digits that show it, and years past
four digits or before zero carry a sign.
-/

namespace Baseline

/-- A moment in universal time. -/
structure Timestamp where
  year : Int
  month : Nat
  day : Nat
  hour : Nat
  minute : Nat
  /-- 60 in a leap second. -/
  second : Nat
  nanosecond : Nat
deriving DecidableEq

namespace Timestamp

/-! ### The calendar -/

/-- Whether a year has a leap day. -/
def isLeap (year : Int) : Bool := year % 4 == 0 && (year % 100 != 0 || year % 400 == 0)

/-- How many days a month has. -/
def daysIn (year : Int) (month : Nat) : Nat :=
  if month = 2 then (if isLeap year then 29 else 28)
  else if month = 4 ∨ month = 6 ∨ month = 9 ∨ month = 11 then 30
  else 31

/-- The first year of the calendar. -/
def firstYear : Int := -262143

/-- The last year of the calendar. -/
def lastYear : Int := 262142

/-- The date of a day, counted from the first of March of the year zero.  Years are counted from
March on, so that a leap day is the last of its year. -/
def dateOf (days : Int) : Int × Nat × Nat :=
  let era := days.fdiv 146097
  let inEra := (days - era * 146097).toNat
  let yearOfEra := (inEra - inEra / 1460 + inEra / 36524 - inEra / 146096) / 365
  let inYear := inEra - (365 * yearOfEra + yearOfEra / 4 - yearOfEra / 100)
  let marchMonth := (5 * inYear + 2) / 153
  let day := inYear - (153 * marchMonth + 2) / 5 + 1
  let month := if marchMonth < 10 then marchMonth + 3 else marchMonth - 9
  let year := era * 400 + yearOfEra
  (if month ≤ 2 then year + 1 else year, month, day)

/-- The moment some seconds after the start of 1970. -/
def ofSeconds (seconds : Int) (nanosecond : Nat) : Timestamp :=
  let (year, month, day) := dateOf (seconds.fdiv 86400 + 719468)
  let inDay := (seconds.fmod 86400).toNat
  ⟨year, month, day, inDay / 3600, inDay / 60 % 60, inDay % 60, nanosecond⟩

example : ofSeconds 0 0 = ⟨1970, 1, 1, 0, 0, 0, 0⟩ := by decide
example : ofSeconds 951825599 5 = ⟨2000, 2, 29, 11, 59, 59, 5⟩ := by decide
example : ofSeconds (-1) 0 = ⟨1969, 12, 31, 23, 59, 59, 0⟩ := by decide

/-- The moment one day earlier. -/
def previousDay (t : Timestamp) : Timestamp :=
  if 1 < t.day then { t with day := t.day - 1 }
  else if 1 < t.month then { t with month := t.month - 1, day := daysIn t.year (t.month - 1) }
  else { t with year := t.year - 1, month := 12, day := 31 }

/-- The moment one day later. -/
def nextDay (t : Timestamp) : Timestamp :=
  if t.day < daysIn t.year t.month then { t with day := t.day + 1 }
  else if t.month < 12 then { t with month := t.month + 1, day := 1 }
  else { t with year := t.year + 1, month := 1, day := 1 }

/-- The moment some minutes earlier, less than a day in either direction. -/
def minusMinutes (t : Timestamp) (minutes : Int) : Timestamp :=
  if minutes = 0 then t
  else
    let total : Int := (t.hour * 60 + t.minute : Nat) - minutes
    let moved := if total < 0 then t.previousDay else if 1440 ≤ total then t.nextDay else t
    let within := (total % 1440).toNat
    { moved with hour := within / 60, minute := within % 60 }

/-! ### Reading -/

/-- Why a text is no timestamp. -/
inductive ParseError
  | tooShort
  | invalid
  | outOfRange
  | tooLong
  | impossible
deriving DecidableEq

/-- The wording of a reading error. -/
def ParseError.message : ParseError → String
  | .tooShort => "premature end of input"
  | .invalid => "input contains invalid characters"
  | .outOfRange => "input is out of range"
  | .tooLong => "trailing input"
  | .impossible => "no possible date and time matching input"

/-- What reads a part off the front of a text. -/
abbrev Reader (α : Type) := List Char → Except ParseError (α × List Char)

/-- Skip blanks. -/
def skipBlanks (s : List Char) : List Char := s.dropWhile Text.isBlank

/-- The number that digits spell. -/
def numberOf (ds : List Char) : Nat := ds.foldl (fun n c => n * 10 + (c.toNat - 48)) 0

/-- The digits at the front of a text, at most `limit` of them. -/
def takeDigits : (limit : Nat) → List Char → List Char × List Char
  | 0, s => ([], s)
  | _ + 1, [] => ([], [])
  | limit + 1, c :: rest =>
    if c.isDigit then
      let (ds, more) := takeDigits limit rest
      (c :: ds, more)
    else ([], c :: rest)

/-- The largest number read. -/
def numberLimit : Nat := Nat.pow 2 63

/-- A number of one to `limit` digits. -/
def readNumber (limit : Nat) : Reader Nat := fun s =>
  match takeDigits limit s with
  | ([], rest) => .error (if rest = [] then .tooShort else .invalid)
  | (ds, rest) => if numberOf ds < numberLimit then .ok (numberOf ds, rest) else .error .outOfRange

/-- A separator, with blanks in front of it. -/
def readMark (mark : Char) : Reader Unit := fun s =>
  match skipBlanks s with
  | [] => .error .tooShort
  | c :: rest => if c = mark then .ok ((), rest) else .error .invalid

/-- A number of one or two digits within bounds, with blanks in front of it. -/
def readField (low high : Nat) : Reader Nat := fun s =>
  match readNumber 2 (skipBlanks s) with
  | .error e => .error e
  | .ok (n, rest) => if low ≤ n ∧ n ≤ high then .ok (n, rest) else .error .outOfRange

/-- A year: four digits at most, or any number of them after a sign. -/
def readYear : Reader Int := fun s =>
  let year : Except ParseError (Int × List Char) :=
    match skipBlanks s with
    | '-' :: rest => (readNumber rest.length rest).map fun (n, more) => (-(n : Int), more)
    | '+' :: rest => (readNumber rest.length rest).map fun (n, more) => ((n : Int), more)
    | rest => (readNumber 4 rest).map fun (n, more) => ((n : Int), more)
  match year with
  | .error e => .error e
  | .ok (y, rest) =>
    if -(Nat.pow 2 31 : Int) ≤ y ∧ y < Nat.pow 2 31 then .ok (y, rest) else .error .outOfRange

/-- A fraction of a second in nanoseconds; absent without a point. -/
def readFraction : Reader Nat := fun s =>
  match s with
  | '.' :: rest =>
    match takeDigits 9 rest with
    | ([], more) => .error (if more = [] then .tooShort else .invalid)
    | (ds, more) => .ok (numberOf ds * Nat.pow 10 (9 - ds.length), more.dropWhile Char.isDigit)
  | _ => .ok (0, s)

/-- Two characters as a number of two digits. -/
def twoDigits? (a b : Char) : Option Nat :=
  if a.isDigit && b.isDigit then some (numberOf [a, b]) else none

/-- How many bytes a text has in UTF-8. -/
def byteLength (s : List Char) : Nat := s.foldr (fun c n => c.utf8Size + n) 0

/-- The minutes of an offset, after any colons and blanks. -/
def readOffsetMinutes : Reader Nat := fun s =>
  let s := s.dropWhile fun c => c = ':' || Text.isBlank c
  if byteLength s < 2 then .error .tooShort
  else
    match s with
    | a :: b :: rest =>
      match twoDigits? a b with
      | some n => if n < 60 then .ok (n, rest) else .error .outOfRange
      | none => .error .invalid
    | _ => .error .invalid

/-- An offset from universal time in minutes: `Z`, `UTC`, or a sign with hours and minutes. -/
def readOffset : Reader Int := fun s =>
  let signed (negative : Bool) (s : List Char) : Except ParseError (Int × List Char) :=
    if byteLength s < 2 then .error .tooShort
    else
      match s with
      | a :: b :: rest =>
        match twoDigits? a b with
        | none => .error .invalid
        | some hours =>
          match readOffsetMinutes rest with
          | .error e => .error e
          | .ok (minutes, more) =>
            let n : Int := (hours * 60 + minutes : Nat)
            .ok (if negative then -n else n, more)
      | _ => .error .invalid
  match s with
  | [] => .error .tooShort
  | c :: rest =>
    if (s.take 3).map Char.toLower = ['u', 't', 'c'] then .ok (0, s.drop 3)
    else if c = 'Z' ∨ c = 'z' then .ok (0, rest)
    else if c = '+' then signed false rest
    else if c = '-' ∨ c = '\u2212' then signed true rest
    else .error .invalid

/-- The date part of a timestamp. -/
def readDate : Reader (Int × Nat × Nat) := fun s => do
  let (year, s) ← readYear s
  let (_, s) ← readMark '-' s
  let (month, s) ← readField 1 12 s
  let (_, s) ← readMark '-' s
  let (day, s) ← readField 1 31 s
  return ((year, month, day), s)

/-- What stands between date and time. -/
def readSeparator : Reader Unit := fun s =>
  match s with
  | [] => .error .tooShort
  | c :: rest => if c = 'T' ∨ c = 't' ∨ c = ' ' then .ok ((), rest) else .error .invalid

/-- The time part of a timestamp: hour, minute, second and nanosecond. -/
def readTime : Reader (Nat × Nat × Nat × Nat) := fun s => do
  let (hour, s) ← readField 0 23 s
  let (_, s) ← readMark ':' s
  let (minute, s) ← readField 0 59 s
  let (_, s) ← readMark ':' s
  let (second, s) ← readField 0 60 s
  let (nanosecond, s) ← readFraction s
  return ((hour, minute, second, nanosecond), s)

/-- A whole text as a timestamp. -/
def parse (text : List Char) : Except ParseError Timestamp := do
  let ((year, month, day), s) ← readDate text
  let (_, s) ← readSeparator s
  let ((hour, minute, second, nanosecond), s) ← readTime s
  let (offset, s) ← readOffset (skipBlanks s)
  if skipBlanks s ≠ [] then throw .tooLong
  if year < firstYear ∨ lastYear < year ∨ daysIn year month < day then throw .outOfRange
  if 1440 ≤ offset.natAbs then throw .outOfRange
  let moment := minusMinutes ⟨year, month, day, hour, minute, second, nanosecond⟩ offset
  if moment.year < firstYear ∨ lastYear < moment.year then throw .impossible
  return moment

/-! ### Writing -/

/-- A number with zeros in front up to a width. -/
def padded (width n : Nat) : List Char :=
  let ds := Nat.toDigits 10 n
  List.replicate (width - ds.length) '0' ++ ds

/-- A year as it is written. -/
def writeYear (year : Int) : List Char :=
  if 0 ≤ year ∧ year ≤ 9999 then padded 4 year.toNat
  else (if year < 0 then '-' else '+') :: padded 4 year.natAbs

/-- A fraction of a second as it is written. -/
def writeFraction (nanosecond : Nat) : List Char :=
  if nanosecond = 0 then []
  else if nanosecond % 1000000 = 0 then '.' :: padded 3 (nanosecond / 1000000)
  else if nanosecond % 1000 = 0 then '.' :: padded 6 (nanosecond / 1000)
  else '.' :: padded 9 nanosecond

/-- A timestamp as it is written. -/
def write (t : Timestamp) : List Char :=
  writeYear t.year ++ '-' :: padded 2 t.month ++ '-' :: padded 2 t.day ++ 'T' :: padded 2 t.hour ++
    ':' :: padded 2 t.minute ++ ':' :: padded 2 t.second ++ writeFraction t.nanosecond ++ ['Z']

end Timestamp

end Baseline
