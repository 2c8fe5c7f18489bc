import Baseline.Toml.Scalar

/-!
# Documents

A document is a table of tables.  Its expressions are taken one by one: a header
opens a table, a key with its value goes into the open one.  A table remembers
how it came about, since that decides who may add to it later:

* one that was only passed through on the way to another may still be opened;
* one made by dotted keys takes further dotted keys, but no header;
* one opened by a header or written in braces is finished.

Reading stops at the first flaw.  A flaw in the form of any expression comes
before all others.
-/

namespace Baseline.Toml

/-- How a table came about. -/
inductive Origin
  | header
  | passedThrough
  | dottedKey
  | braces
deriving DecidableEq

/-- What a table holds under a name, with the places of the name and of the value. -/
structure Entry (α : Type) where
  name : String
  keySpan : Span
  valueSpan : Span
  value : α

/-- A value of a document. -/
inductive Value
  | scalar (s : Scalar)
  | array (elements : List Value)
  /-- An array made by headers, the newest table first. -/
  | tables (newestFirst : List (List (Entry Value)))
  | table (origin : Origin) (entries : List (Entry Value))

/-- What a table holds. -/
abbrev Entries := List (Entry Value)

/-- A segment of a key. -/
structure Segment where
  name : String
  span : Span

/-- A repeated key. -/
def Segment.repeated (s : Segment) : Flaw := ⟨.repeatedKey, s.span⟩

/-- What kind of value it is, as it is said of one that a key cannot go on below. -/
def Value.kind : Value → String
  | .scalar (.text _) => "string"
  | .scalar (.boolean _) => "boolean"
  | .scalar (.integer _) => "integer"
  | .scalar (.fraction _) | .scalar (.infinite _) | .scalar .notANumber => "float"
  | .scalar .moment => "datetime"
  | .array _ | .tables _ => "array"
  | .table .braces _ => "inline table"
  | .table .. => "table"

namespace Entries

/-- The entry of a name. -/
def entry? (es : Entries) (name : String) : Option (Entry Value) := es.find? (·.name = name)

/-- The entries with another value under a name that is there. -/
def replace (es : Entries) (name : String) (v : Value) : Entries :=
  es.map fun e => if e.name = name then { e with value := v } else e

/-- The entries without that of a name. -/
def remove (es : Entries) (name : String) : Entries := es.filter fun e => e.name != name

/-- The entries with one more at their end. -/
def add (es : Entries) (key : Segment) (valueSpan : Span) (v : Value) : Entries :=
  es ++ [⟨key.name, key.span, valueSpan, v⟩]

end Entries

/-- Work on a table: the entries it leaves, and a result. -/
abbrev TableStep (α : Type) := Origin → Entries → Except Flaw (α × Entries)

/-- Who walks into tables. -/
inductive Walker
  /-- A header on its way. -/
  | header
  /-- A dotted key of the document. -/
  | dottedKey
  /-- A dotted key in braces. -/
  | bracedKey
deriving DecidableEq

namespace Walker

/-- How a table comes about that this walker makes. -/
def makes : Walker → Origin
  | .header => .passedThrough
  | .dottedKey | .bracedKey => .dottedKey

/-- Whether this walker may enter a table, which the segment names. -/
def enter (w : Walker) (origin : Origin) (key : Segment) : Except Flaw Unit :=
  match w, origin with
  | _, .dottedKey | _, .passedThrough | .header, .header => .ok ()
  | .bracedKey, .braces | .bracedKey, .header | .dottedKey, .header => .error key.repeated
  | .header, .braces | .dottedKey, .braces =>
    .error ⟨.notExtensible (Value.table .braces []).kind, key.span⟩

end Walker

/-- Work on the table that a path leads to.  Tables that are missing on the way are made; an array
made by headers stands for its newest table. -/
def within {α : Type} (w : Walker) : List Segment → TableStep α → TableStep α
  | [], step, origin, es => step origin es
  | key :: path, step, _, es =>
    match es.entry? key.name with
    | none => do
      let (a, inner) ← within w path step w.makes []
      return (a, es.add key key.span (.table w.makes inner))
    | some e =>
      match e.value with
      | .table origin inner => do
        w.enter origin key
        let (a, inner) ← within w path step origin inner
        return (a, es.replace key.name (.table origin inner))
      | .tables (newest :: older) => do
        let (a, newest) ← within w path step .header newest
        return (a, es.replace key.name (.tables (newest :: older)))
      | v => .error ⟨.notExtensible v.kind, key.span⟩

/-- Put a value under a key.  A table made by dotted keys takes dotted keys only, and no other
table does. -/
def put (dotted : Bool) (key : Segment) (valueSpan : Span) (v : Value) : TableStep Unit :=
  fun origin es =>
    if decide (origin = .dottedKey) ≠ dotted ∨ (es.entry? key.name).isSome then
      .error key.repeated
    else .ok ((), es.add key valueSpan v)

/-! ### Values -/

/-- A word as a segment of a key. -/
def Word.segment (w : Word) : Except Flaw Segment := do return ⟨← w.key, w.span⟩

/-- How many segments a key may have. -/
def segmentLimit : Nat := 80

/-- The segments of a key: those on the way, and the last.  A key without words is taken for one
that is empty. -/
def splitKey (ws : List Word) : Except Flaw (List Segment × Segment) := do
  let segments ← ws.mapM Word.segment
  match segments.getLast?, segments.head? with
  | some last, some first =>
    if segmentLimit < segments.length then .error ⟨.tooManySegments, first.span⟩
    return (segments.dropLast, last)
  | _, _ => .error (Cause.emptyKey.inFrontOf 0)

/-- Where a value stands. -/
def ValueForm.span : ValueForm → Span
  | .word w => w.span
  | .array _ span => span
  | .inlineTable _ span => span

mutual

/-- The value that is written. -/
def ValueForm.value : ValueForm → Except Flaw Value
  | .word w => do return .scalar (← w.scalar)
  | .array elements _ => do return .array (← values elements)
  | .inlineTable entries _ => do return .table .braces (← fields [] entries)

/-- The values that are written. -/
def values : List ValueForm → Except Flaw (List Value)
  | [] => .ok []
  | v :: rest => do
    let v ← v.value
    return v :: (← values rest)

/-- A table in braces, given what stands in front of these keys. -/
def fields (es : Entries) : List (List Word × ValueForm) → Except Flaw Entries
  | [] => .ok es
  | (key, form) :: rest => do
    let (path, last) ← splitKey key
    let v ← form.value
    let ((), es) ← within .bracedKey path (put (!path.isEmpty) last form.span v) .braces es
    fields es rest

end

/-! ### Headers -/

/-- A header that has been read. -/
structure Header where
  path : List Segment
  key : Segment
  ofArray : Bool
  span : Span

/-- A document as far as it is read: what is finished, and the open table with its header. -/
structure Draft where
  finished : Entries
  header : Option Header
  entries : Entries

namespace Draft

/-- Nothing is read. -/
def start : Draft := ⟨[], none, []⟩

/-- Put the open table of an array in its place. -/
def closeElement (h : Header) (entries : Entries) : TableStep Unit := fun _ es =>
  match es.entry? h.key.name with
  | none => .ok ((), es.add h.key h.span (.tables [entries]))
  | some e =>
    match e.value with
    | .tables older => .ok ((), es.replace h.key.name (.tables (entries :: older)))
    | _ => .error h.key.repeated

/-- Everything that is read, with the open table in its place. -/
def close (d : Draft) : Except Flaw Entries :=
  match d.header with
  | none => .ok d.entries
  | some h => do
    let step : TableStep Unit :=
      if h.ofArray then closeElement h d.entries
      else fun _ es => .ok ((), es.add h.key h.span (.table .header d.entries))
    let ((), es) ← within .header h.path step .header d.finished
    return es

/-- Take a table that was only passed through out of its place, to go on with it. -/
def reopen (h : Header) : TableStep Entries := fun _ es =>
  match es.entry? h.key.name with
  | none => .ok ([], es)
  | some e =>
    match e.value with
    | .table .passedThrough inner => .ok (inner, es.remove h.key.name)
    | _ => .error h.key.repeated

/-- Open the table of a header. -/
def openTable (finished : Entries) (h : Header) : Except Flaw Draft :=
  if h.ofArray then .ok ⟨finished, some h, []⟩
  else do
    let (entries, finished) ← within .header h.path (reopen h) .header finished
    return ⟨finished, some h, entries⟩

/-- Take one expression. -/
def take (d : Draft) : Expression → Except Flaw Draft
  | .header key ofArray span => do
    let finished ← d.close
    let (path, last) ← splitKey key
    openTable finished ⟨path, last, ofArray, span⟩
  | .entry key form => do
    let (path, last) ← splitKey key
    let v ← form.value
    let ((), entries) ←
      within .dottedKey path (put (!path.isEmpty) last form.span v) .header d.entries
    return { d with entries }

end Draft

/-- The table that a document is. -/
def readDocument (source : List Char) : Except Flaw Entries := do
  let expressions ← scanDocument source
  let d ← expressions.foldlM Draft.take Draft.start
  d.close

end Baseline.Toml
