/-!
# Source positions

A TOML document is read as characters with their places.  A `Span` is a stretch
of places, and `Excerpt.render` shows one the way errors do: the line it starts on under
its number, and a row of carets below.
-/

namespace Baseline.Toml

/-- The places from `start` up to `stop`, counted in characters. -/
structure Span where
  start : Nat
  stop : Nat
deriving DecidableEq

namespace Span

/-- Nothing, in front of a place. -/
def before (place : Nat) : Span := ⟨place, place⟩

/-- One character. -/
def single (place : Nat) : Span := ⟨place, place + 1⟩

end Span

/-- What is left to read and the place where it starts. -/
structure Cursor where
  place : Nat
  rest : List Char

namespace Cursor

/-- One character further. -/
def next (c : Cursor) : Cursor := ⟨c.place + 1, c.rest.tail⟩

/-- Some characters further. -/
def skip (c : Cursor) (n : Nat) : Cursor := ⟨c.place + n, c.rest.drop n⟩

/-- Past the characters that satisfy `p`. -/
def skipWhile (p : Char → Bool) (c : Cursor) : Cursor := c.skip (c.rest.takeWhile p).length

/-- The place after the last character. -/
def stop (c : Cursor) : Nat := c.place + c.rest.length

end Cursor

/-- How many bytes characters have in UTF-8. -/
def byteLength (s : List Char) : Nat := s.foldr (fun c n => c.utf8Size + n) 0

/-- The line that a place is on: its number from one, the columns in front of the place, and its
text. -/
structure Excerpt where
  line : Nat
  before : Nat
  text : List Char

namespace Excerpt

/-- The excerpt at a place.  The end of a document counts to the line of its last character, one
column behind it.  A column is a character, but a place at a character of several bytes is
counted in bytes. -/
def find (source : List Char) (place : Nat) : Excerpt :=
  let anchor := min place (source.length - 1)
  let above := source.take anchor
  let before := (above.reverse.takeWhile (· != '\n')).reverse
  let rest := source.drop anchor
  let wide := place = anchor ∧ rest.head?.any (·.utf8Size != 1)
  let columns := if wide then byteLength before else before.length
  ⟨above.count '\n' + 1, columns + (place - anchor), before ++ rest.takeWhile (· != '\n')⟩

/-- The lines of an error message that show a span: one caret for each byte of the span, as far as
the line goes, and one at least. -/
def render (source : List Char) (span : Span) : String :=
  let e := find source span.start
  let number := toString e.line
  let margin := String.ofList (List.replicate (number.length + 1) ' ') ++ "|"
  let wanted := byteLength ((source.drop span.start).take (span.stop - span.start))
  let carets := max 1 (min wanted (byteLength e.text - e.before))
  "TOML parse error at line " ++ number ++ ", column " ++ toString (e.before + 1) ++ "\n" ++
    margin ++ "\n" ++
    number ++ " | " ++ String.ofList e.text ++ "\n" ++
    margin ++ " " ++
    String.ofList (List.replicate e.before ' ' ++ List.replicate carets '^') ++ "\n"

end Excerpt

end Baseline.Toml
