import Baseline.Bytes

/-!
# UTF-8

Text is written as UTF-8 and read back one byte at a time.  `step` is the
reader: between characters it has nothing pending, inside one it knows how many
bytes are owed and which values the next one may take.  A byte that cannot
follow ends the sequence that has begun, which then counts as one invalid piece,
and starts afresh; so every maximal invalid sequence is exactly one piece.

`decodeLossy` shows each invalid piece as U+FFFD, `decode?` refuses it.
-/

namespace Baseline.Utf8

/-- The bytes of a text. -/
def encode (s : String) : Bytes :=
  s.toList.flatMap String.utf8EncodeChar

/-- A character that has begun: how many bytes follow the next one, the bounds of
the next one, and the bits read so far. -/
structure Pending where
  owed : Nat
  low : UInt8
  high : UInt8
  bits : Nat
deriving DecidableEq

/-- What a byte is at the start of a character. -/
inductive Lead
  /-- A whole character. -/
  | whole (c : Char)
  /-- The first byte of a longer one. -/
  | begun (p : Pending)
  /-- No character starts with it. -/
  | refused

/-- A byte read at the start of a character.  The bounds of the second byte leave
out overlong forms, surrogates and what lies past the last code point. -/
def lead (b : UInt8) : Lead :=
  if b ≤ 0x7F then .whole (Char.ofNat b.toNat)
  else if b < 0xC2 then .refused
  else if b ≤ 0xDF then .begun ⟨0, 0x80, 0xBF, b.toNat - 0xC0⟩
  else if b = 0xE0 then .begun ⟨1, 0xA0, 0xBF, 0⟩
  else if b = 0xED then .begun ⟨1, 0x80, 0x9F, 13⟩
  else if b ≤ 0xEF then .begun ⟨1, 0x80, 0xBF, b.toNat - 0xE0⟩
  else if b = 0xF0 then .begun ⟨2, 0x90, 0xBF, 0⟩
  else if b ≤ 0xF3 then .begun ⟨2, 0x80, 0xBF, b.toNat - 0xF0⟩
  else if b = 0xF4 then .begun ⟨2, 0x80, 0x8F, 4⟩
  else .refused

/-- A byte read between characters: the pieces it completes and what is pending after it. -/
def stepFresh (b : UInt8) : List (Option Char) × Option Pending :=
  match lead b with
  | .whole c => ([some c], none)
  | .begun p => ([], some p)
  | .refused => ([none], none)

/-- One byte: the pieces it completes and what is pending after it. -/
def step : Option Pending → UInt8 → List (Option Char) × Option Pending
  | none, b => stepFresh b
  | some p, b =>
    if p.low ≤ b ∧ b ≤ p.high then
      let bits := p.bits * 64 + (b.toNat - 0x80)
      match p.owed with
      | 0 => ([some (Char.ofNat bits)], none)
      | owed + 1 => ([], some ⟨owed, 0x80, 0xBF, bits⟩)
    else
      let (pieces, pending) := stepFresh b
      (none :: pieces, pending)

/-- The characters of a byte string, with `none` for each maximal invalid sequence. -/
def pieces : Option Pending → Bytes → List (Option Char)
  | none, [] => []
  | some _, [] => [none]
  | p, b :: rest => (step p b).1 ++ pieces (step p b).2 rest

/-- The characters of a byte string; each maximal invalid sequence is shown as U+FFFD. -/
def decodeChars (b : Bytes) : List Char :=
  (pieces none b).map fun c => c.getD '\ufffd'

/-- The text of a byte string; each maximal invalid sequence is shown as U+FFFD. -/
def decodeLossy (b : Bytes) : String :=
  String.ofList (decodeChars b)

/-- Whether a byte string is valid UTF-8. -/
def isValid (b : Bytes) : Bool :=
  (pieces none b).all Option.isSome

/-- The text of a byte string that is valid UTF-8. -/
def decode? (b : Bytes) : Option String :=
  if isValid b then some (decodeLossy b) else none

end Baseline.Utf8
