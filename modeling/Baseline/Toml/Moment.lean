import Baseline.Toml.Flaw

/-!
# Dates and times

A date, a time of day, or both with an offset from universal time or none.  A moment is
read as digits with marks between them.  Of each part first the marks are checked, then how many
digits there are, then what they say.
-/

namespace Baseline.Toml

/-- The number that decimal digits write. -/
def decimalNumber (ds : List Char) : Nat := ds.foldl (fun n c => n * 10 + (c.toNat - '0'.toNat)) 0

/-- How many days a month has. -/
def daysIn (year month : Nat) : Nat :=
  if month = 2 then if year % 4 = 0 ∧ (year % 100 ≠ 0 ∨ year % 400 = 0) then 29 else 28
  else if month = 4 ∨ month = 6 ∨ month = 9 ∨ month = 11 then 30
  else 31

namespace Moment

/-- A piece of a moment: digits, or one character that is none. -/
inductive Piece
  | digits (ds : List Char)
  | mark (c : Char)
deriving DecidableEq

/-- The pieces of a moment. -/
def pieces : List Char → List Piece
  | [] => []
  | c :: rest =>
    if c.isDigit then
      match pieces rest with
      | .digits ds :: ps => .digits (c :: ds) :: ps
      | ps => .digits [c] :: ps
    else .mark c :: pieces rest

/-- What takes a part off the front of the pieces. -/
abbrev Reader (α : Type) := StateT (List Piece) (Except Cause) α

/-- Fail: the part is wrong, and this was expected. -/
def fail {α : Type} (part expected : String) : Reader α :=
  throw (.moment (some part) (some expected))

/-- Digits. -/
def digits (part expected : String) : Reader (List Char) := do
  match ← get with
  | .digits ds :: ps => set ps; return ds
  | _ => fail part expected

/-- A given mark. -/
def mark (c : Char) (part expected : String) : Reader Unit := do
  match ← get with
  | .mark d :: ps => if d = c then set ps else fail part expected
  | _ => fail part expected

/-- A mark, if it is one of these. -/
def mark? (cs : List Char) : Reader (Option Char) := do
  match ← get with
  | .mark c :: ps => if c ∈ cs then set ps; return some c else return none
  | _ => return none

/-- The number that digits write, of which there have to be so many. -/
def sized (n : Nat) (ds : List Char) (part expected : String) : Reader Nat :=
  if ds.length = n then pure (decimalNumber ds) else fail part expected

/-- Check that a number is at most `top`. -/
def atMost (top n : Nat) (part expected : String) : Reader Unit :=
  if n ≤ top then pure () else fail part expected

/-- The rest of a date, after its year and the dash behind it. -/
def date (year : List Char) : Reader Unit := do
  let part := "date"
  let month ← digits part "month"
  mark '-' part "`-` (MM-DD)"
  let day ← digits part "day"
  let year ← sized 4 year part "a four-digit year (YYYY)"
  let month ← sized 2 month part "a two-digit month (MM)"
  let day ← sized 2 day part "a two-digit day (DD)"
  if month < 1 ∨ 12 < month then fail part "month between 01 and 12"
  let last := daysIn year month
  if day < 1 ∨ last < day then fail part ("day between 01 and " ++ toString last)

/-- A time of day.  Its seconds may be left out, and may have a fraction. -/
def time : Reader Unit := do
  let part := "time"
  let hour ← digits part "hour"
  mark ':' part "`:` (HH:MM)"
  let minute ← digits part "minute"
  let second ← match ← mark? [':'] with
    | some _ => some <$> digits part "second"
    | none => pure none
  if second.isSome ∧ (← mark? ['.']).isSome then
    let _ ← digits part "nanosecond"
  let hour ← sized 2 hour part "a two-digit hour (HH)"
  let minute ← sized 2 minute part "a two-digit minute (MM)"
  let second ← match second with
    | some second => sized 2 second part "a two-digit second (SS)"
    | none => pure 0
  atMost 23 hour part "hour between 00 and 23"
  atMost 59 minute part "minute between 00 and 59"
  atMost 60 second part "second between 00 and 60"

/-- An offset from universal time, or none. -/
def offset : Reader Unit := do
  let part := "offset"
  match ← mark? ['Z', 'z', '+', '-'] with
  | none => if ¬ (← get).isEmpty then fail part "`Z`, +OFFSET, -OFFSET"
  | some c =>
    if c = '+' ∨ c = '-' then
      let hours ← digits part "hour"
      mark ':' part "`:` (HH:MM)"
      let minutes ← digits part "minute"
      let hours ← sized 2 hours part "a two-digit hour (HH)"
      let minutes ← sized 2 minutes part "a two-digit minute (MM)"
      atMost 23 hours part "hours between 00 and 23"
      atMost 59 minutes part "minutes between 00 and 59"

/-- A time with an offset, after a date; or nothing. -/
def timeOfDate : Reader Unit := do
  if (← get).isEmpty then return
  match ← mark? ['T', 't', ' '] with
  | some _ => time; offset
  | none => fail "date-time" "`T` between date and time"

/-- A whole moment: the mark after its first digits says whether it begins with a date. -/
def whole : Reader Unit := do
  let start ← get
  let unknown {α : Type} (expected : String) : Reader α := throw (.moment none (some expected))
  match start with
  | .digits year :: .mark '-' :: ps =>
    set ps
    date year
    timeOfDate
  | .digits _ :: .mark ':' :: _ => time
  | .digits _ :: _ => unknown "`-` (YYYY-MM) or `:` (HH:MM)"
  | _ => unknown "year or hour"
  if ¬ (← get).isEmpty then throw (.moment none none)

/-- What is wrong with characters that should be a moment, if anything is. -/
def check (s : List Char) : Except Cause Unit := whole.run' (pieces s)

end Moment

end Baseline.Toml
