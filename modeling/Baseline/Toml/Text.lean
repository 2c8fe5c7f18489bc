import Baseline.Toml.Form

/-!
# Strings and keys

The characters that a quoted word stands for.  A basic string has escapes, a
literal one has none.  A string over lines drops a line end right after its
opening quotes, and a basic one drops a backslash at the end of a line with all
blanks and line ends after it.
-/

namespace Baseline.Toml

/-- The value of a hexadecimal digit. -/
def hexValue? (c : Char) : Option Nat :=
  if '0' ≤ c ∧ c ≤ '9' then some (c.toNat - '0'.toNat)
  else if 'a' ≤ c ∧ c ≤ 'f' then some (c.toNat - 'a'.toNat + 10)
  else if 'A' ≤ c ∧ c ≤ 'F' then some (c.toNat - 'A'.toNat + 10)
  else none

/-- The number that digits of a base up to sixteen write. -/
def baseNumber (base : Nat) (ds : List Char) : Nat :=
  ds.foldl (fun n c => n * base + (hexValue? c).getD 0) 0

/-- The character of a code point; none for a surrogate or past the last one. -/
def codePoint? (n : Nat) : Option Char :=
  if n < 0xD800 ∨ (0xDFFF < n ∧ n < 0x110000) then some (Char.ofNat n) else none

/-- The character that a one-letter escape stands for. -/
def shortEscape? : Char → Option Char
  | 'b' => some '\x08'
  | 't' => some '\t'
  | 'n' => some '\n'
  | 'f' => some '\x0c'
  | 'r' => some '\r'
  | 'e' => some '\x1b'
  | '"' => some '"'
  | '\\' => some '\\'
  | _ => none

/-- How many hexadecimal digits follow an escape's letter. -/
def escapeWidth? : Char → Option Nat
  | 'x' => some 2
  | 'u' => some 4
  | 'U' => some 8
  | _ => none

/-- The character that hexadecimal digits stand for, of which there are `width`. -/
def scanCodePoint (width : Nat) : Scan Char := fun c =>
  let digits := (c.rest.takeWhile fun x => (hexValue? x).isSome).take width
  let after := c.skip digits.length
  if digits.length < width then .error (Cause.escapeDigits.inFrontOf after.place)
  else
    match codePoint? (baseNumber 16 digits) with
    | some x => .ok (x, after)
    | none => .error (Cause.escapeValue.inFrontOf c.place)

/-- What follows a backslash: the character it stands for. -/
def scanEscape : Scan Char := fun c =>
  match c.rest with
  | [] => .error (Cause.escapeLetter.inFrontOf c.place)
  | x :: _ =>
    match escapeWidth? x with
    | some width => scanCodePoint width c.next
    | none =>
      match shortEscape? x with
      | some x => .ok (x, c.next)
      | none => .error (Cause.escapeLetter.inFrontOf c.place)

/-- Past blanks and line ends.  The first argument bounds how many. -/
def skipBlankLines : Nat → Cursor → Except Flaw Cursor
  | 0, c => .ok c
  | bound + 1, c => do
    let c := skipSpaces c
    match ← skipLineEnd c with
    | some c => skipBlankLines bound c
    | none => return c

/-- Past what a backslash drops at the end of a line: blanks, the line end, and all further blanks
and line ends. -/
def joinLines (c : Cursor) : Except Flaw Cursor := do
  let c := skipSpaces c
  match ← skipLineEnd c with
  | some c => skipBlankLines (c.rest.length + 1) c
  | none => .error (Cause.escapedBlank.inFrontOf c.place)

/-- Whether a character can stand for itself in a string without lines or escapes. -/
def isPlain (quoting : Quoting) (c : Char) : Bool :=
  isPrintable c && (quoting.hasLines || [c] != quoting.quotes)

/-- The characters in front that can stand nowhere in a string. -/
def strayCharacters (quoting : Quoting) (s : List Char) : List Char :=
  s.takeWhile fun x => !isPlain quoting x && x != '\\' &&
    !(quoting.hasLines && (x == '\n' || x == '\r'))

/-- The characters that the inside of a string stands for.  The first argument bounds the number of
steps. -/
def unescape (quoting : Quoting) : Nat → Cursor → Except Flaw (List Char)
  | 0, _ => .ok []
  | bound + 1, c =>
    match c.rest with
    | [] => .ok []
    | x :: _ =>
      if quoting.hasEscapes ∧ x = '\\' then
        if quoting.hasLines ∧ c.next.rest.head?.any (fun y => isSpace y || y == '\n' || y == '\r')
        then do unescape quoting bound (← joinLines c.next)
        else do
          let (y, c) ← scanEscape c.next
          return y :: (← unescape quoting bound c)
      else if quoting.hasLines ∧ (x = '\n' ∨ x = '\r') then do
        let after := (← skipLineEnd c).getD c.next
        return c.rest.take (after.place - c.place) ++ (← unescape quoting bound after)
      else if isPlain quoting x then return x :: (← unescape quoting bound c.next)
      else
        let stray := if quoting.hasEscapes then (strayCharacters quoting c.rest).length else 0
        .error ⟨.stringCharacter quoting, ⟨c.place, c.place + stray⟩⟩

/-- Whether a character may stand in a bare key. -/
def isKeyChar (c : Char) : Bool := c.isAlphanum || c == '_' || c == '-'

namespace Word

/-- What is inside the quotes of a word. -/
def inside (w : Word) : Except Flaw Cursor :=
  let quotes := w.quoting.quotes
  if ¬ quotes.isPrefixOf w.raw then .error ((Cause.unfinishedString w.quoting).inFrontOf w.start)
  else
    let inner : Cursor := ⟨w.start + quotes.length, w.raw.drop quotes.length⟩
    if ¬ quotes.isSuffixOf inner.rest then
      .error ((Cause.unfinishedString w.quoting).inFrontOf w.span.stop)
    else .ok { inner with rest := inner.rest.take (inner.rest.length - quotes.length) }

/-- The text of a quoted word. -/
def quoted (w : Word) : Except Flaw String := do
  let c ← w.inside
  let first ← match c.rest with
    | '\n' :: _ | '\r' :: '\n' :: _ => if w.quoting.hasLines then skipLineEnd c else pure none
    | _ => pure none
  let c := first.getD c
  return String.ofList (← unescape w.quoting (c.rest.length + 1) c)

/-- The text of a segment of a key.  Strings over lines are no keys. -/
def key (w : Word) : Except Flaw String :=
  match w.quoting with
  | .bare =>
    let start := w.start + (w.raw.takeWhile isKeyChar).length
    let stray := (w.raw.dropWhile isKeyChar).takeWhile fun c => !isKeyChar c
    if w.raw = [] then .error (Cause.emptyKey.inFrontOf w.start)
    else if stray = [] then .ok (String.ofList w.raw)
    else .error ⟨.keyCharacter, ⟨start, start + stray.length⟩⟩
  | .basic | .literal => w.quoted
  | .basicLines | .literalLines => .error ⟨.keyOverLines w.quoting, w.span⟩

end Word

end Baseline.Toml
