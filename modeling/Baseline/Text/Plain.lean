import Baseline.Text.Utf8

/-!
# Plain text

A stream that is no terminal is given text without control characters and without
the sequences that steer a terminal.  A sequence starts with an escape; what
follows it says how the sequence goes on and where it ends.  Blanks and line ends stay,
also inside a sequence, which goes on after them only when another control
character comes.
-/

namespace Baseline.Text

/-- Where a byte stands. -/
inductive Place
  /-- Outside sequences. -/
  | ground
  /-- After an escape. -/
  | escape
  /-- In an escape sequence of several bytes. -/
  | longEscape
  /-- In a control sequence, which a letter ends. -/
  | control
  /-- In front of the text for a device. -/
  | deviceHead
  /-- In a text for a device. -/
  | deviceText
  /-- In a command for the system, which a bell ends. -/
  | command
deriving DecidableEq

/-- What a byte is. -/
inductive Effect
  /-- A character. -/
  | character
  /-- The first byte of a character of several bytes. -/
  | opening
  /-- A control character. -/
  | control
  /-- Part of a sequence. -/
  | part
deriving DecidableEq

/-- Whether a byte is between two others. -/
def between (low high b : UInt8) : Bool := low ≤ b && b ≤ high

/-- Whether a byte is a control character other than those that start or break off a sequence. -/
def isControl (b : UInt8) : Bool := b < 0x20

namespace Place

/-- What a byte is in its place, and the place after it where that changes. -/
def step (p : Place) (b : UInt8) : Option Place × Effect :=
  if b = 0x18 ∨ b = 0x1A then (some ground, .control)
  else if b = 0x1B then (some escape, .part)
  else
    match p with
    | ground =>
      if isControl b then (none, .control)
      else if b < 0x80 then (none, .character)
      else if between 0xC2 0xF4 b then (none, .opening)
      else (none, .part)
    | escape =>
      if isControl b then (none, .control)
      else if between 0x20 0x2F b then (some longEscape, .part)
      else if b = 0x50 then (some deviceHead, .part)
      else if b = 0x58 ∨ b = 0x5E ∨ b = 0x5F then (some deviceText, .part)
      else if b = 0x5B then (some control, .part)
      else if b = 0x5D then (some command, .part)
      else if between 0x30 0x7E b then (some ground, .part)
      else (none, .part)
    | longEscape =>
      if isControl b then (none, .control)
      else if between 0x30 0x7E b then (some ground, .part)
      else (none, .part)
    | control =>
      if isControl b then (none, .control)
      else if between 0x40 0x7E b then (some ground, .part)
      else (none, .part)
    | deviceHead => if between 0x40 0x7E b then (some deviceText, .part) else (none, .part)
    | deviceText => if b = 0x9C then (some ground, .part) else (none, .part)
    | command => if b = 0x07 then (some ground, .part) else (none, .part)

end Place

/-- Whether a byte stays. -/
def stays (e : Effect) (b : UInt8) : Bool :=
  match e with
  | .character => b != 0x7F
  | .opening => true
  | .control => b == 0x09 || b == 0x0A || b == 0x0C || b == 0x0D
  | .part => false

/-- How many bytes follow the first one of a character. -/
def following (b : UInt8) : Nat := if b < 0xE0 then 1 else if b < 0xF0 then 2 else 3

/-- The bytes that stay.  While `staying` the bytes are read as outside sequences, and `left` more
belong to a character that has begun. -/
def plainBytes (staying : Bool) (p : Place) : (left : Nat) → Bytes → Bytes
  | _, [] => []
  | left + 1, b :: rest => b :: plainBytes staying p left rest
  | 0, b :: rest =>
    let (next, effect) := Place.step (if staying then .ground else p) b
    let p := next.getD p
    if stays effect b then
      if effect = .opening then b :: plainBytes true .ground (following b) rest
      else b :: plainBytes true p 0 rest
    else
      let p := if staying then ((Place.step p b).1).getD p else p
      plainBytes false p 0 rest

/-- A text between the sequences that turn bold letters on and off. -/
def bold (s : String) : String := "\x1b[1m" ++ s ++ "\x1b[0m"

/-- A text without control characters and sequences. -/
def plain (s : String) : String := Utf8.decodeLossy (plainBytes false .ground 0 (Utf8.encode s))

end Baseline.Text
