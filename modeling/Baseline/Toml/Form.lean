import Baseline.Toml.Flaw

/-!
# The form of a document

A document is a list of expressions: tables opened by a header, and keys with a
value.  Reading its form settles where every key, header and value starts and
ends; what single words and strings mean is not looked at.  It stops at the first
flaw.

Where a word is missing in front of or after a sign that is there, an empty one
stands for it.  The form is not wrong for that: the empty word means nothing, which is
noticed when words are looked at.
-/

namespace Baseline.Toml

/-- A word: its characters as they are written, with their quotes, and the place of the first. -/
structure Word where
  quoting : Quoting
  raw : List Char
  start : Nat

namespace Word

/-- Where a word stands. -/
def span (w : Word) : Span := ⟨w.start, w.start + w.raw.length⟩

/-- The word that stands where one is missing. -/
def missing (place : Nat) : Word := ⟨.bare, [], place⟩

/-- The word that stands where a value is missing between braces. -/
def missingValue (place : Nat) : Word := ⟨.literal, [], place⟩

end Word

/-- A value as it is written. -/
inductive ValueForm
  | word (w : Word)
  | array (elements : List ValueForm) (span : Span)
  | inlineTable (entries : List (List Word × ValueForm)) (span : Span)

/-- An expression of a document. -/
inductive Expression
  | entry (key : List Word) (value : ValueForm)
  | header (key : List Word) (ofArray : Bool) (span : Span)

/-- What takes a part off the front of a document. -/
abbrev Scan (α : Type) := Cursor → Except Flaw (α × Cursor)

/-- A flaw at a place, in front of what stands there. -/
def Cause.inFrontOf (cause : Cause) (place : Nat) : Flaw := ⟨cause, .before place⟩

/-- A flaw that is one character. -/
def Cause.ofCharacter (cause : Cause) (place : Nat) : Flaw := ⟨cause, .single place⟩

/-- Blanks within a line. -/
def isSpace (c : Char) : Bool := c == ' ' || c == '\t'

/-- Whether a character may stand in a comment or, apart from quotes, in a string. -/
def isPrintable (c : Char) : Bool := c == '\t' || (32 ≤ c.toNat && c.toNat != 127)

/-- Whether a character ends a bare word. -/
def endsWord (c : Char) : Bool := ".=,[]\x7b\x7d \t#\r\n".toList.contains c

/-- Whether a character is a quote. -/
def isQuote (c : Char) : Bool := c == '"' || c == '\''

/-- Skip blanks. -/
def skipSpaces (c : Cursor) : Cursor := c.skipWhile isSpace

/-! ### Words -/

/-- The length of the text of a basic string and whether its quote closes it; a backslash guards
a quote or a backslash. -/
def basicLength : List Char → Nat × Bool
  | [] => (0, false)
  | '"' :: _ => (0, true)
  | '\n' :: _ => (0, false)
  | '\\' :: '"' :: rest => let (n, closed) := basicLength rest; (n + 2, closed)
  | '\\' :: '\\' :: rest => let (n, closed) := basicLength rest; (n + 2, closed)
  | _ :: rest => let (n, closed) := basicLength rest; (n + 1, closed)

/-- The length of the text of a literal string and whether its quote closes it. -/
def literalLength : List Char → Nat × Bool
  | [] => (0, false)
  | '\'' :: _ => (0, true)
  | '\n' :: _ => (0, false)
  | _ :: rest => let (n, closed) := literalLength rest; (n + 1, closed)

/-- How many of at most two characters are the given one. -/
def extraQuotes (q : Char) (s : List Char) : Nat := ((s.take 2).takeWhile (· == q)).length

/-- The length of the text of a string over lines; up to two quotes before the closing ones belong
to it.  In a basic string a backslash guards the character after it. -/
def linesLength (q : Char) (guards : Bool) : List Char → Nat × Bool
  | [] => (0, false)
  | [_] => (1, false)
  | [_, _] => (2, false)
  | a :: b :: c :: rest =>
    if a = q ∧ b = q ∧ c = q then (extraQuotes q rest, true)
    else if guards ∧ a = '\\' then
      let (n, closed) := linesLength q guards (c :: rest)
      (n + 2, closed)
    else
      let (n, closed) := linesLength q guards (b :: c :: rest)
      (n + 1, closed)

/-- A quoted word whose quotes have `width` characters and whose text has length `n`. -/
def quotedWord (quoting : Quoting) (n : Nat) (closed : Bool) (c : Cursor) : Word × Cursor :=
  let width := quoting.quotes.length
  let total := width + n + (if closed then width else 0)
  (⟨quoting, c.rest.take total, c.place⟩, c.skip total)

/-- A quoted word, when the front is one. -/
def scanQuoted (c : Cursor) : Option (Word × Cursor) :=
  match c.rest with
  | '"' :: '"' :: '"' :: rest =>
    let (n, closed) := linesLength '"' true rest
    some (quotedWord .basicLines n closed c)
  | '\'' :: '\'' :: '\'' :: rest =>
    let (n, closed) := linesLength '\'' false rest
    some (quotedWord .literalLines n closed c)
  | '"' :: rest =>
    let (n, closed) := basicLength rest
    some (quotedWord .basic n closed c)
  | '\'' :: rest =>
    let (n, closed) := literalLength rest
    some (quotedWord .literal n closed c)
  | _ => none

/-- A bare word of some length. -/
def bareWord (n : Nat) (c : Cursor) : Word × Cursor := (⟨.bare, c.rest.take n, c.place⟩, c.skip n)

/-- A bare word, when the front is one. -/
def scanBare (c : Cursor) : Option (Word × Cursor) :=
  let n := (c.rest.takeWhile fun x => !endsWord x).length
  if n = 0 then none else some (bareWord n c)

/-- A quoted or bare word, when the front is one. -/
def scanWord (c : Cursor) : Option (Word × Cursor) := (scanQuoted c).or (scanBare c)

/-! ### Keys -/

/-- A key as it is written, and whether a word stands after its last dot. -/
structure KeyForm where
  words : List Word
  whole : Bool

/-- A key with one more word in front. -/
def KeyForm.cons (w : Word) (k : KeyForm) : KeyForm := { k with words := w :: k.words }

/-- The words of a key after the first, with a dot in front of each.  The first argument bounds how
many there are. -/
def scanDots : Nat → Cursor → KeyForm × Cursor
  | 0, c => (⟨[], true⟩, c)
  | bound + 1, c =>
    let dot := skipSpaces c
    match dot.rest with
    | '.' :: _ =>
      let c := skipSpaces dot.next
      match c.rest with
      | '.' :: _ =>
        let (k, c') := scanDots bound c
        (k.cons (.missing c.place), c')
      | _ =>
        match scanWord c with
        | some (w, c) =>
          let (k, c) := scanDots bound c
          (k.cons w, c)
        | none => (⟨[.missing c.place], false⟩, dot.next)
    | _ => (⟨[], true⟩, c)

/-- A key: words with dots between them, up to the last of them. -/
def scanKey (c : Cursor) : KeyForm × Cursor :=
  match scanWord c with
  | some (w, c) =>
    let (k, c) := scanDots (c.rest.length + 1) c
    (k.cons w, c)
  | none =>
    let (k, c') := scanDots (c.rest.length + 1) c
    ({ k.cons (.missing c.place) with whole := k.whole && !k.words.isEmpty }, c')

/-! ### Ends of lines -/

/-- Past a comment, if one starts here.  It goes on to the end of the line. -/
def skipComment (c : Cursor) : Except Flaw Cursor :=
  match c.rest with
  | '#' :: _ =>
    let text := c.rest.takeWhile fun x => x != '\r' && x != '\n'
    match text.findIdx? fun x => !isPrintable x with
    | some i => .error (Cause.commentCharacter.inFrontOf (c.place + i))
    | none => .ok (c.skip text.length)
  | _ => .ok c

/-- Past the end of a line, if it is here. -/
def skipLineEnd (c : Cursor) : Except Flaw (Option Cursor) :=
  match c.rest with
  | '\n' :: _ => .ok (some c.next)
  | '\r' :: '\n' :: _ => .ok (some (c.skip 2))
  | '\r' :: _ => .error (Cause.loneReturn.inFrontOf (c.place + 1))
  | _ => .ok none

/-- Past blanks, a comment and the end of the line or of the document. -/
def endLine (c : Cursor) : Except Flaw Cursor := do
  let c ← skipComment (skipSpaces c)
  match ← skipLineEnd c with
  | some c => return c
  | none =>
    if c.rest = [] then return c else .error (Cause.afterExpression.inFrontOf c.place)

/-- Past blanks, comments and ends of lines.  The first argument bounds how many lines. -/
def skipFill : Nat → Cursor → Except Flaw Cursor
  | 0, c => .ok c
  | bound + 1, c => do
    let c ← skipComment (skipSpaces c)
    match ← skipLineEnd c with
    | some c => skipFill bound c
    | none => return c

/-- Past blanks, comments and ends of lines. -/
def skipLines (c : Cursor) : Except Flaw Cursor := skipFill (c.rest.length + 1) c

/-! ### Values -/

/-- Whether characters begin with a bare word. -/
def startsWord (s : List Char) : Bool := s.head?.any fun x => !endsWord x && !isQuote x

/-- The number of characters in front that belong to a bare value: dots and bare words, and after
blanks one more word.  `inWord` says whether a word has begun; a quote ends the value unless it
stands inside one. -/
def bareLength : (inWord : Bool) → List Char → Nat
  | _, [] => 0
  | inWord, x :: rest =>
    if x = '.' then bareLength false rest + 1
    else if isSpace x then
      if startsWord (rest.dropWhile isSpace) then bareLength false rest + 1 else 0
    else if endsWord x ∨ (!inWord ∧ isQuote x) then 0
    else bareLength true rest + 1

/-- A quoted word, or a bare value: bare words with dots or blanks between them, since a date and
a time have a blank between them. -/
def scanScalar (c : Cursor) : Word × Cursor :=
  match scanQuoted c with
  | some found => found
  | none => bareWord (bareLength false c.rest) c

/-- Values with commas between them up to the closing bracket, which is taken.  A comma may stand
after the last.  An end of the document is noticed after what stands in front of it. -/
def scanElements (item : Scan ValueForm) : Nat → Scan (List ValueForm)
  | 0, c => .error (Cause.unclosedArray.inFrontOf c.place)
  | bound + 1, c => do
    let d ← skipLines c
    match d.rest with
    | [] => .error (Cause.unclosedArray.inFrontOf c.place)
    | ']' :: _ => return ([], d.next)
    | ',' :: _ => .error (Cause.emptyElement.inFrontOf d.place)
    | '=' :: _ => .error (Cause.assignmentInArray.inFrontOf d.place)
    | '\x7d' :: _ => .error (Cause.unopenedBrace.inFrontOf d.place)
    | _ =>
      let (v, c) ← item d
      let d ← skipLines c
      match d.rest with
      | [] => .error (Cause.unclosedArray.inFrontOf c.place)
      | ',' :: _ => do
        let (vs, c) ← scanElements item bound d.next
        return (v :: vs, c)
      | ']' :: _ => return ([v], d.next)
      | '=' :: _ => .error (Cause.assignmentInArray.inFrontOf d.place)
      | _ => .error (Cause.elementsNotSeparated.inFrontOf d.place)

/-- The value of an entry, after its key.  Where a closing brace takes its place, a missing word
stands for it. -/
def scanEntryValue (item : Scan ValueForm) : Scan ValueForm := fun c => do
  let d ← skipLines c
  match d.rest with
  | [] => .error (Cause.unclosedBraces.inFrontOf c.place)
  | '\x7d' :: _ => return (.word (.missingValue d.place), d)
  | ',' :: _ => .error ((Cause.emptyEntry .assignment).inFrontOf d.place)
  | ']' :: _ => .error ((Cause.closingBracketInBraces .assignment).inFrontOf d.place)
  | '=' :: _ => do
    let c := d.next
    let d ← skipLines c
    match d.rest with
    | [] => .error (Cause.unclosedBraces.inFrontOf c.place)
    | '\x7d' :: _ => return (.word (.missingValue d.place), d)
    | ',' :: _ => .error ((Cause.emptyEntry .value).inFrontOf d.place)
    | '=' :: _ => .error ((Cause.assignmentInBraces .value).inFrontOf d.place)
    | ']' :: _ => .error (Cause.unopenedBracket.inFrontOf d.place)
    | _ => item d
  | _ => .error (Cause.entryWithoutAssignment.inFrontOf d.place)

/-- Keys with values and commas between them up to the closing brace, which is taken.  A comma may
stand after the last, and lines may end anywhere but in a key. -/
def scanEntries (item : Scan ValueForm) : Nat → Scan (List (List Word × ValueForm))
  | 0, c => .error (Cause.unclosedBraces.inFrontOf c.place)
  | bound + 1, c => do
    let d ← skipLines c
    match d.rest with
    | [] => .error (Cause.unclosedBraces.inFrontOf c.place)
    | '\x7d' :: _ => return ([], d.next)
    | ',' :: _ => .error ((Cause.emptyEntry .key).inFrontOf d.place)
    | '[' :: _ | '\x7b' :: _ => .error ((Cause.entryWithoutKey .key).inFrontOf d.place)
    | ']' :: _ => .error ((Cause.closingBracketInBraces .key).inFrontOf d.place)
    | _ =>
      let (k, c) := scanKey d
      let (v, c) ← scanEntryValue item c
      let d ← skipLines c
      match d.rest with
      | [] => .error (Cause.unclosedBraces.inFrontOf c.place)
      | ',' :: _ => do
        let (es, c) ← scanEntries item bound d.next
        return ((k.words, v) :: es, c)
      | '\x7d' :: _ => return ([(k.words, v)], d.next)
      | '=' :: _ => .error ((Cause.assignmentInBraces .comma).inFrontOf d.place)
      | '[' :: _ | '\x7b' :: _ => .error ((Cause.entryWithoutKey .comma).inFrontOf d.place)
      | ']' :: _ => .error ((Cause.closingBracketInBraces .comma).inFrontOf d.place)
      | _ => .error (Cause.entriesNotSeparated.inFrontOf d.place)

/-- How deep arrays and inline tables may be nested, and one. -/
def depthLimit : Nat := 81

/-- A value with fewer than `depth` arrays and inline tables inside each other. -/
def scanValue : (depth : Nat) → Scan ValueForm
  | 0, c => .error (Cause.tooDeep.ofCharacter c.place)
  | depth + 1, c =>
    match c.rest with
    | '[' :: _ => do
      if depth = 0 then .error (Cause.tooDeep.ofCharacter c.place)
      let (vs, c') ← scanElements (scanValue depth) (c.rest.length + 1) c.next
      return (.array vs ⟨c.place, c'.place⟩, c')
    | '\x7b' :: _ => do
      if depth = 0 then .error (Cause.tooDeep.ofCharacter c.place)
      let (es, c') ← scanEntries (scanValue depth) (c.rest.length + 1) c.next
      return (.inlineTable es ⟨c.place, c'.place⟩, c')
    | _ =>
      let (w, c) := scanScalar c
      return (.word w, c)

/-! ### Expressions -/

/-- Past words and signs up to a comment or the end of the line.  The first argument bounds how
many there are. -/
def skipTokens : Nat → Cursor → Cursor
  | 0, c => c
  | bound + 1, c =>
    match c.rest with
    | [] | '#' :: _ | '\r' :: _ | '\n' :: _ => c
    | _ =>
      match scanWord c with
      | some (_, c) => skipTokens bound c
      | none => skipTokens bound c.next

/-- A header, from its first bracket to the end of its line.  Brackets that do not close are passed
over when a word of the key is missing at its end. -/
def scanHeader : Scan Expression := fun c => do
  let (ofArray, inner) := match c.rest with
    | '[' :: '[' :: _ => (true, c.skip 2)
    | _ => (false, c.next)
  let (k, keyEnd) := scanKey (skipSpaces inner)
  let c' := skipSpaces keyEnd
  match ofArray, c'.rest with
  | true, ']' :: ']' :: _ =>
    return (.header k.words true ⟨c.place, c'.place + 2⟩, ← endLine (c'.skip 2))
  | false, ']' :: _ => return (.header k.words false ⟨c.place, c'.place + 1⟩, ← endLine c'.next)
  | _, ']' :: _ => .error ((Cause.unclosedArrayHeader "]").inFrontOf (c'.place + 1))
  | _, _ =>
    if !k.whole then
      let c' := skipTokens (c'.rest.length + 1) c'
      return (.header k.words ofArray ⟨c.place, c'.place⟩, ← endLine c')
    else if ofArray then .error ((Cause.unclosedArrayHeader "]]").inFrontOf keyEnd.place)
    else .error (Cause.unclosedHeader.inFrontOf keyEnd.place)

/-- The value of a line, after its key: a missing word at the end of the line, or a value. -/
def scanLineValue : Scan ValueForm := fun c =>
  match c.rest with
  | [] | '#' :: _ | '\n' :: _ | '\r' :: _ | ',' :: _ => .ok (.word (.missing c.place), c)
  | '=' :: _ => .error (Cause.secondAssignment.ofCharacter c.place)
  | '\x7d' :: _ => .error (Cause.unopenedBrace.inFrontOf c.place)
  | ']' :: _ => .error (Cause.unopenedBracket.inFrontOf c.place)
  | _ => scanValue depthLimit c

/-- A key with its value, up to the end of their line. -/
def scanEntry : Scan Expression := fun c => do
  let lacksValue := if c.rest.head? = some '.' then .dottedKeyWithoutValue else .keyWithoutValue
  let (k, c) := scanKey c
  let c := skipSpaces c
  match c.rest with
  | '=' :: _ => do
    let (v, c) ← scanLineValue (skipSpaces c.next)
    return (.entry k.words v, ← endLine c)
  | _ => .error (Cause.inFrontOf lacksValue c.place)

/-- An expression: a header or a key with its value. -/
def scanExpression : Scan Expression := fun c =>
  match c.rest with
  | '[' :: _ => scanHeader c
  | ']' :: _ => .error (Cause.unopenedHeader.inFrontOf c.place)
  | ',' :: _ | '\x7b' :: _ | '\x7d' :: _ => .error (Cause.noKey.inFrontOf c.place)
  | _ => scanEntry c

/-- The expressions of a document, one a line.  The first argument bounds how many lines. -/
def scanLines : Nat → Cursor → Except Flaw (List Expression)
  | 0, _ => .ok []
  | bound + 1, c => do
    let c ← skipLines c
    if c.rest = [] then return []
    let (e, c) ← scanExpression c
    return e :: (← scanLines bound c)

/-- The expressions of a document.  A byte order mark in front says nothing. -/
def scanDocument (source : List Char) : Except Flaw (List Expression) :=
  let start : Cursor := ⟨0, source⟩
  let start := if source.head? = some '\ufeff' then start.next else start
  scanLines (source.length + 1) start

end Baseline.Toml
