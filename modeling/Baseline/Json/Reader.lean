import Baseline.Json.Value

/-!
# Reading JSON

A reader takes a value of one type off the front of a text.  Readers work from
left to right and stop at the first problem: the text is not JSON
(`Error.malformed`), or it is but not of the type (`Error.mismatch`).  So a value
of the wrong type is reported even when the text is cut short behind it.

`readValue` reads any value and bounds how deep arrays and objects are nested;
`skipValue` passes over one that nobody looks at, without that bound and without
asking what numbers and escapes mean.
-/

namespace Baseline.Json

/-- Why nothing is read. -/
inductive Error
  | malformed
  | mismatch (m : Mismatch)
deriving DecidableEq

/-- What takes a value off the front of a text. -/
abbrev Reader (α : Type) := List Char → Except Error (α × List Char)

/-- Whether a character is blank in JSON. -/
def isBlank (c : Char) : Bool := c == ' ' || c == '\n' || c == '\t' || c == '\r'

/-- Skip blanks. -/
def skipBlanks (s : List Char) : List Char := s.dropWhile isBlank

/-- A text off the front. -/
def expect (w : List Char) : Reader Unit := fun s =>
  if w.isPrefixOf s then .ok ((), s.drop w.length) else .error .malformed

/-! ### Strings -/

/-- The value of a hexadecimal digit. -/
def hexValue? (c : Char) : Option Nat :=
  if c.isDigit then some (c.toNat - '0'.toNat)
  else if 'a' ≤ c ∧ c ≤ 'f' then some (c.toNat - 'a'.toNat + 10)
  else if 'A' ≤ c ∧ c ≤ 'F' then some (c.toNat - 'A'.toNat + 10)
  else none

/-- The value of four hexadecimal digits. -/
def hexQuad? (a b c d : Char) : Option Nat := do
  return (((← hexValue? a) * 16 + (← hexValue? b)) * 16 + (← hexValue? c)) * 16 + (← hexValue? d)

/-- The character behind a backslash. -/
def escaped? (c : Char) : Option Char :=
  if c = '"' ∨ c = '\\' ∨ c = '/' then some c
  else if c = 'b' then some '\x08'
  else if c = 'f' then some '\x0c'
  else if c = 'n' then some '\n'
  else if c = 'r' then some '\r'
  else if c = 't' then some '\t'
  else none

/-- Whether a number is the first half of a surrogate pair. -/
def isHighSurrogate (n : Nat) : Bool := 0xD800 ≤ n && n ≤ 0xDBFF

/-- Whether a number is the second half of a surrogate pair. -/
def isLowSurrogate (n : Nat) : Bool := 0xDC00 ≤ n && n ≤ 0xDFFF

/-- The character of a surrogate pair. -/
def pairChar (high low : Nat) : Char :=
  Char.ofNat (0x10000 + (high - 0xD800) * 0x400 + (low - 0xDC00))

/-- A string after its first quote: its characters and what follows the last quote. -/
def stringBody : List Char → Option (List Char × List Char)
  | [] => none
  | '"' :: rest => some ([], rest)
  | '\\' :: 'u' :: a :: b :: c :: d :: rest =>
    match hexQuad? a b c d with
    | none => none
    | some n =>
      if isLowSurrogate n then none
      else if isHighSurrogate n then
        match rest with
        | '\\' :: 'u' :: a' :: b' :: c' :: d' :: rest' =>
          match hexQuad? a' b' c' d' with
          | none => none
          | some m =>
            if isLowSurrogate m then
              (stringBody rest').map fun (s, more) => (pairChar n m :: s, more)
            else none
        | _ => none
      else (stringBody rest).map fun (s, more) => (Char.ofNat n :: s, more)
  | '\\' :: c :: rest =>
    match escaped? c with
    | none => none
    | some x => (stringBody rest).map fun (s, more) => (x :: s, more)
  | c :: rest =>
    if c = '\\' ∨ c.toNat < 32 then none
    else (stringBody rest).map fun (s, more) => (c :: s, more)

/-- What follows a string that nobody looks at, after its first quote. -/
def stringEnd : List Char → Option (List Char)
  | [] => none
  | '"' :: rest => some rest
  | '\\' :: 'u' :: a :: b :: c :: d :: rest =>
    if (hexQuad? a b c d).isSome then stringEnd rest else none
  | '\\' :: c :: rest => if (escaped? c).isSome then stringEnd rest else none
  | c :: rest => if c = '\\' ∨ c.toNat < 32 then none else stringEnd rest

/-! ### Numbers -/

/-- The value of a decimal digit. -/
def digitValue (c : Char) : Nat := c.toNat - '0'.toNat

/-- The parts of a number as it is written. -/
structure NumberText where
  negative : Bool
  whole : List Nat
  fraction : Option (List Nat)
  /-- Whether the exponent is negative, and its digits. -/
  exponent : Option (Bool × List Nat)

/-- The digits at the front of a text. -/
def takeDigits (s : List Char) : List Nat × List Char :=
  ((s.takeWhile Char.isDigit).map digitValue, s.dropWhile Char.isDigit)

/-- Whether a text begins with a minus sign, and what follows it. -/
def takeMinus : List Char → Bool × List Char
  | '-' :: rest => (true, rest)
  | s => (false, s)

/-- Whether a text begins with a minus sign, and what follows it or a plus sign. -/
def takeSign : List Char → Bool × List Char
  | '-' :: rest => (true, rest)
  | '+' :: rest => (false, rest)
  | s => (false, s)

/-- The fraction at the front of a text, if there is one; a point needs digits behind it. -/
def takeFraction : List Char → Option (Option (List Nat) × List Char)
  | '.' :: rest =>
    let (ds, more) := takeDigits rest
    if ds = [] then none else some (some ds, more)
  | s => some (none, s)

/-- The exponent at the front of a text, if there is one; its letter needs digits behind it. -/
def takeExponent : List Char → Option (Option (Bool × List Nat) × List Char)
  | [] => some (none, [])
  | c :: rest =>
    if c = 'e' ∨ c = 'E' then
      let (down, rest) := takeSign rest
      let (ds, more) := takeDigits rest
      if ds = [] then none else some (some (down, ds), more)
    else some (none, c :: rest)

/-- The parts of the number at the front of a text. -/
def numberText (s : List Char) : Option (NumberText × List Char) :=
  let (negative, s) := takeMinus s
  let (whole, s) := takeDigits s
  if whole = [] ∨ (whole.head? = some 0 ∧ 1 < whole.length) then none
  else do
    let (fraction, s) ← takeFraction s
    let (exponent, s) ← takeExponent s
    return (⟨negative, whole, fraction, exponent⟩, s)

/-- Numbers from here on are not whole numbers of 64 bits. -/
def naturalLimit : Nat := Nat.pow 2 64

/-- Digits added to a number while it stays below `2 ^ 64`: the number, how many were added and
how many were left. -/
def accumulate : Nat → List Nat → Nat × Nat × Nat
  | n, [] => (n, 0, 0)
  | n, d :: rest =>
    if n * 10 + d < naturalLimit then
      let (m, used, left) := accumulate (n * 10 + d) rest
      (m, used + 1, left)
    else (n, 0, rest.length + 1)

/-- The number that digits spell. -/
def digitsValue (ds : List Nat) : Nat := ds.foldl (fun n d => n * 10 + d) 0

/-- A power of ten as a double. -/
def powerOfTen (n : Nat) : Decimal.Binary := (Decimal.Binary.nearest? (Nat.pow 10 n) 1).getD .zero

/-- A number times a power of ten, rounded at each step: one step when the power is at most 308,
else by `10 ^ 308` first.  None past the largest double. -/
def scaled? (b : Decimal.Binary) (exponent : Int) : (steps : Nat) → Option Decimal.Binary
  | 0 => some .zero
  | steps + 1 =>
    if exponent.natAbs ≤ 308 then
      if 0 ≤ exponent then b.mul? (powerOfTen exponent.toNat)
      else b.div? (powerOfTen (-exponent).toNat)
    else if b.mantissa = 0 then some .zero
    else if 0 ≤ exponent then none
    else (b.div? (powerOfTen 308)).bind fun b => scaled? b (exponent + 308) steps

/-- The double that a number's text stands for: its leading digits as far as they fit into 64 bits,
scaled by the power of ten that is left.  None past the largest double. -/
def NumberText.float? (t : NumberText) : Option Decimal.Binary :=
  let (n, _, left) := accumulate 0 t.whole
  let (n, used, _) := accumulate n (t.fraction.getD [])
  let shift : Int := (left : Int) - used
  let (down, ds) := t.exponent.getD (false, [])
  let e := digitsValue ds
  if Nat.pow 2 31 ≤ e then
    if n ≠ 0 ∧ !down then none else some .zero
  else
    let b := (Decimal.Binary.nearest? n 1).getD .zero
    scaled? b (if down then shift - e else shift + e) 4

/-- The number that a number's text stands for; none past the largest double. -/
def NumberText.value? (t : NumberText) : Option Number :=
  let n := digitsValue t.whole
  match t.fraction, t.exponent with
  | none, none =>
    if !t.negative ∧ n < naturalLimit then some (.natural n)
    else if t.negative ∧ n ≠ 0 ∧ n ≤ Nat.pow 2 63 then some (.negative n)
    else t.float?.map fun b => .float (.finite t.negative b)
  | _, _ => t.float?.map fun b => .float (.finite t.negative b)

/-- A number off the front. -/
def readNumber : Reader Number := fun s =>
  match numberText s with
  | none => .error .malformed
  | some (t, rest) =>
    match t.value? with
    | none => .error .malformed
    | some n => .ok (n, rest)

/-! ### Sequences and objects -/

/-- The next element, or none before the closing bracket, which stays. -/
def nextElement (item : Reader α) (first : Bool) : Reader (Option α) := fun s =>
  match skipBlanks s with
  | [] => .error .malformed
  | c :: rest =>
    if c = ']' then .ok (none, c :: rest)
    else if first then
      (item (c :: rest)).map fun (a, more) => (some a, more)
    else if c = ',' then
      match skipBlanks rest with
      | [] => .error .malformed
      | d :: rest' =>
        if d = ']' then .error .malformed
        else (item (d :: rest')).map fun (a, more) => (some a, more)
    else .error .malformed

/-- The closing bracket. -/
def endSequence : Reader Unit := fun s => expect [']'] (skipBlanks s)

/-- The elements up to the closing bracket, which stays.  The first argument bounds how many there
are. -/
def elements (item : Reader α) : Nat → (first : Bool) → Reader (List α)
  | 0, _, _ => .error .malformed
  | bound + 1, first, s =>
    match nextElement item first s with
    | .error e => .error e
    | .ok (none, rest) => .ok ([], rest)
    | .ok (some a, rest) =>
      match elements item bound false rest with
      | .error e => .error e
      | .ok (as, more) => .ok (a :: as, more)

/-- The name of the next member, or none before the closing brace, which stays. -/
def nextName (first : Bool) : Reader (Option String) := fun s =>
  let name (s : List Char) : Except Error (Option String × List Char) :=
    match s with
    | '"' :: rest =>
      match stringBody rest with
      | some (k, more) => .ok (some (String.ofList k), more)
      | none => .error .malformed
    | _ => .error .malformed
  match skipBlanks s with
  | [] => .error .malformed
  | c :: rest =>
    if c = '\x7d' then .ok (none, c :: rest)
    else if first then name (c :: rest)
    else if c = ',' then name (skipBlanks rest)
    else .error .malformed

/-- The colon after a name. -/
def colon : Reader Unit := fun s => expect [':'] (skipBlanks s)

/-- The closing brace. -/
def endObject : Reader Unit := fun s => expect ['\x7d'] (skipBlanks s)

/-- Go through the members up to the closing brace, which stays; `step` gets each name and reads
the colon and the value.  The first number bounds how many there are. -/
def members (step : σ → String → Reader σ) : Nat → (first : Bool) → σ → Reader σ
  | 0, _, _, _ => .error .malformed
  | bound + 1, first, acc, s =>
    match nextName first s with
    | .error e => .error e
    | .ok (none, rest) => .ok (acc, rest)
    | .ok (some k, rest) =>
      match step acc k rest with
      | .error e => .error e
      | .ok (acc, more) => members step bound false acc more

/-! ### Values -/

/-- A value that is no array and no object. -/
def readScalar : Reader Value := fun s =>
  match s with
  | [] => .error .malformed
  | c :: rest =>
    if c = 'n' then (expect "ull".toList rest).map fun (_, more) => (.null, more)
    else if c = 't' then (expect "rue".toList rest).map fun (_, more) => (.bool true, more)
    else if c = 'f' then (expect "alse".toList rest).map fun (_, more) => (.bool false, more)
    else if c = '"' then
      match stringBody rest with
      | some (k, more) => .ok (.string (String.ofList k), more)
      | none => .error .malformed
    else if c = '-' ∨ c.isDigit then
      (readNumber (c :: rest)).map fun (n, more) => (.number n, more)
    else .error .malformed

/-- How deep arrays and objects may be nested, and one. -/
def depthLimit : Nat := 128

/-- Any value, with fewer than `depth` arrays and objects inside each other. -/
def readValue : (depth : Nat) → Reader Value
  | 0, _ => .error .malformed
  | depth + 1, s =>
    match skipBlanks s with
    | [] => .error .malformed
    | c :: rest =>
      if c = '[' then
        if depth = 0 then .error .malformed
        else
          match elements (readValue depth) (rest.length + 1) true rest with
          | .error e => .error e
          | .ok (vs, more) => (endSequence more).map fun (_, more) => (.array vs, more)
      else if c = '\x7b' then
        if depth = 0 then .error .malformed
        else
          let step (ms : List (String × Value)) (k : String) (s : List Char) :
              Except Error (List (String × Value) × List Char) :=
            match colon s with
            | .error e => .error e
            | .ok (_, s) => (readValue depth s).map fun (v, more) => (ms ++ [(k, v)], more)
          match members step (rest.length + 1) true [] rest with
          | .error e => .error e
          | .ok (ms, more) => (endObject more).map fun (_, more) => (.object ms, more)
      else readScalar (c :: rest)

/-- Pass over the name of the next member and its colon; none before the closing brace, which
stays. -/
def skipName (first : Bool) : Reader (Option Unit) := fun s =>
  let name (s : List Char) : Except Error (Option Unit × List Char) :=
    match s with
    | '"' :: rest =>
      match stringEnd rest with
      | some more => (colon more).map fun (_, more) => (some (), more)
      | none => .error .malformed
    | _ => .error .malformed
  match skipBlanks s with
  | [] => .error .malformed
  | c :: rest =>
    if c = '\x7d' then .ok (none, c :: rest)
    else if first then name (c :: rest)
    else if c = ',' then name (skipBlanks rest)
    else .error .malformed

/-- Pass over the members up to the closing brace, which stays. -/
def skipMembers (item : Reader Unit) : Nat → (first : Bool) → Reader Unit
  | 0, _, _ => .error .malformed
  | bound + 1, first, s =>
    match skipName first s with
    | .error e => .error e
    | .ok (none, rest) => .ok ((), rest)
    | .ok (some (), rest) =>
      match item rest with
      | .error e => .error e
      | .ok ((), more) => skipMembers item bound false more

/-- Pass over any value.  The first argument bounds its depth. -/
def skipNested : Nat → Reader Unit
  | 0, _ => .error .malformed
  | depth + 1, s =>
    match skipBlanks s with
    | [] => .error .malformed
    | c :: rest =>
      if c = '[' then
        match elements (skipNested depth) (rest.length + 1) true rest with
        | .error e => .error e
        | .ok (_, more) => endSequence more
      else if c = '\x7b' then
        match skipMembers (skipNested depth) (rest.length + 1) true rest with
        | .error e => .error e
        | .ok (_, more) => endObject more
      else if c = 'n' then expect "ull".toList rest
      else if c = 't' then expect "rue".toList rest
      else if c = 'f' then expect "alse".toList rest
      else if c = '"' then
        match stringEnd rest with
        | some more => .ok ((), more)
        | none => .error .malformed
      else if c = '-' ∨ c.isDigit then
        match numberText (c :: rest) with
        | some (_, more) => .ok ((), more)
        | none => .error .malformed
      else .error .malformed

/-- Pass over any value. -/
def skipValue : Reader Unit := fun s => skipNested (s.length + 1) s

/-! ### Values of one type -/

/-- Report the value at the front as none of what is expected. -/
def mismatched (expected : String) : Reader α := fun s =>
  match skipBlanks s with
  | [] => .error .malformed
  | c :: rest =>
    if c = '[' then .error (.mismatch (.invalidType .sequence expected))
    else if c = '\x7b' then .error (.mismatch (.invalidType .map expected))
    else
      match readScalar (c :: rest) with
      | .error e => .error e
      | .ok (v, _) => .error (.mismatch (.invalidType v.found expected))

/-- A string; `expected` names what it stands for. -/
def readString (expected : String) : Reader String := fun s =>
  match skipBlanks s with
  | '"' :: rest =>
    match stringBody rest with
    | some (k, more) => .ok (String.ofList k, more)
    | none => .error .malformed
  | s => mismatched expected s

/-- A whole number below `2 ^ 64`. -/
def readNatural : Reader Nat := fun s =>
  match skipBlanks s with
  | [] => .error .malformed
  | c :: rest =>
    if c = '-' ∨ c.isDigit then
      match readNumber (c :: rest) with
      | .error e => .error e
      | .ok (.natural n, more) => .ok (n, more)
      | .ok (.negative n, _) =>
        .error (.mismatch (.invalidValue (Number.negative n).found "u64"))
      | .ok (.float d, _) => .error (.mismatch (.invalidType (Number.float d).found "u64"))
    else mismatched "u64" (c :: rest)

/-- Read a whole text: nothing but blanks may follow the value. -/
def decode (reader : Reader α) (s : String) : Except Error α :=
  match reader s.toList with
  | .error e => .error e
  | .ok (a, rest) => if skipBlanks rest = [] then .ok a else .error .malformed

end Baseline.Json
