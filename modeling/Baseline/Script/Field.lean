import Baseline.FileTree
import Baseline.Script.Pattern

/-!
# Fields

When the pieces of a word have been replaced, the word is divided into fields: the
characters that came from values divide it where they are dividers and were not
quoted.  A field that is a pattern then becomes the names of the files that fit it.
-/

namespace Baseline.Script

/-- Bytes as characters with their codes. -/
def charsOf (b : Bytes) : List Char := b.map fun x => Char.ofNat x.toNat

/-- Characters with codes below 256 as bytes. -/
def bytesOf (s : List Char) : Bytes := s.map fun c => UInt8.ofNat c.toNat

/-- The path that characters write. -/
def pathOf (s : List Char) : Path := ⟨bytesOf s⟩

/-- A part of a word whose pieces have been replaced. -/
inductive Glyph
  /-- A character, which may divide the word when it came from a value. -/
  | char (c : Char) (quoted divides : Bool)
  /-- Quotes, which make a field even when nothing is between them. -/
  | quotes
  /-- The end of a field. -/
  | cut

namespace Glyph

/-- Text that keeps together or not. -/
def ofText (quoted divides : Bool) (s : List Char) : List Glyph :=
  s.map fun c => .char c quoted divides

/-- The character of a glyph. -/
def char? : Glyph → Option Char
  | .char c _ _ => some c
  | _ => none

/-- The characters of glyphs. -/
def text (gs : List Glyph) : List Char := gs.filterMap char?

/-- The characters of glyphs as parts of a pattern. -/
def marks (gs : List Glyph) : List Mark := gs.filterMap fun
  | .char c quoted _ => some ⟨c, quoted⟩
  | _ => none

end Glyph

/-- Whether a character is a blank or an end of a line. -/
def isGap (c : Char) : Bool := c == ' ' || c == '\t' || c == '\n'

/-- The dividers when nothing says otherwise. -/
def standardDividers : List Char := [' ', '\t', '\n']

/-! ### Division -/

/-- What came before the place where a word may be divided. -/
inductive Before
  /-- Nothing, or part of a field. -/
  | open_
  /-- Blanks that divided. -/
  | blanks
  /-- A divider that is no blank. -/
  | divider
deriving DecidableEq

/-- A field, when it is one. -/
def closed (current : List Glyph) : List (List Glyph) :=
  match current with
  | [] => []
  | _ => [current.reverse]

/-- Divide glyphs into fields.  Blanks divide together; any other divider ends a field, even an
empty one, and takes the blanks around it. -/
def divide (dividers : List Char) (current : List Glyph) (before : Before) :
    List Glyph → List (List Glyph)
  | [] => closed current
  | .cut :: rest => closed current ++ divide dividers [] .open_ rest
  | .quotes :: rest => divide dividers (.quotes :: current) .open_ rest
  | .char c quoted divides :: rest =>
    if divides ∧ dividers.contains c then
      if current.isEmpty then
        if isGap c then divide dividers [] before rest
        else if before = .blanks then divide dividers [] .divider rest
        else [] :: divide dividers [] .divider rest
      else
        current.reverse :: divide dividers [] (if isGap c then .blanks else .divider) rest
    else divide dividers (.char c quoted divides :: current) .open_ rest

/-! ### Names of files -/

/-- Parts of a path, divided at slashes. -/
def segments (s : List Mark) : List (List Mark) :=
  s.foldr (fun m parts =>
    if m.char = '/' then [] :: parts
    else
      match parts with
      | part :: rest => (m :: part) :: rest
      | [] => [[m]]) [[]]

/-- Whether one text comes before another or is the same. -/
def notAfter (a b : List Char) : Bool := !(bytesOf b).before (bytesOf a)

/-- The names in the directory that a path names. -/
def namesAt (files : FileTree) (dir : List Char) : List (List Char) :=
  match files.locate (pathOf (if dir = [] then ['.'] else dir)) with
  | .ok loc =>
    if files.node? loc = some .directory then
      ['.'] :: ['.', '.'] :: (files.namesIn loc).map charsOf
    else []
  | .error _ => []

/-- The paths that start with a text and go on with names that fit the patterns.  A name that starts
with a dot fits only a pattern that does. -/
def pathsFrom (files : FileTree) (start : List Char) : List (List Mark) → List (List Char)
  | [] => [start]
  | segment :: rest =>
    let ending : List Char := if rest.isEmpty then [] else ['/']
    let pattern := Pattern.ofMarks segment
    if pattern.isOpen then
      let hidden := (segment.head?.map Mark.char) == some '.'
      let names := (namesAt files start).filter fun n =>
        pattern.fits n && ((n.head? == some '.') == hidden)
      names.flatMap fun n =>
        let path := start ++ n ++ ending
        if rest.isEmpty ∨ files.isDirectory (pathOf path) then pathsFrom files path rest else []
    else
      let path := start ++ segment.map Mark.char ++ ending
      if rest.isEmpty then if (files.at? (pathOf path)).isSome then [path] else []
      else pathsFrom files path rest

/-- What a field stands for: the paths that fit it, or its own text when none does. -/
def fieldTexts (files : FileTree) (patterns : Bool) (gs : List Glyph) : List (List Char) :=
  let marks := Glyph.marks gs
  let text := Glyph.text gs
  if patterns && marks.any fun m => !m.quoted && "*?[".toList.contains m.char then
    match (pathsFrom files [] (segments marks)).mergeSort notAfter with
    | [] => [text]
    | paths => paths
  else [text]

end Baseline.Script
