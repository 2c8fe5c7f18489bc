import Baseline.BuildTarget
import Baseline.Json.Failure
import Baseline.Record

/-!
# Records and build targets in JSON

A record is an object of its six fields, in any order and among others that are
passed over; an array of the six in order is read as well.  A record is written
only when its test's path is text.
-/

namespace Baseline

namespace Record

/-- A record as a JSON value; none when the path of its test is not UTF-8. -/
def toJson? (r : Record) : Option Json.Value :=
  (Utf8.decode? r.test.bytes).map fun test =>
    .object
      [("seq", .number (.natural r.seq)),
       ("timestamp", .string (String.ofList r.timestamp.write)),
       ("elapsed_ms", .number (.natural r.elapsed)),
       ("test", .string test),
       ("engine", .string r.engine),
       ("failures", Verdict.toJson r.failures)]

/-! ### Reading -/

/-- A timestamp off the front of a text. -/
def readTimestamp : Json.Reader Timestamp := fun s =>
  match Json.readString "an RFC 3339 formatted date and time string" s with
  | .error e => .error e
  | .ok (text, rest) =>
    match Timestamp.parse text.toList with
    | .ok t => .ok (t, rest)
    | .error e => .error (.mismatch (.refused e.message))

/-- A path off the front of a text. -/
def readPath : Json.Reader Path := fun s =>
  (Json.readString "path string" s).map fun (p, rest) => (.ofString p, rest)

/-- The fields read so far. -/
structure Draft where
  seq : Option Nat
  timestamp : Option Timestamp
  elapsed : Option Nat
  test : Option Path
  engine : Option String
  failures : Option Verdict

namespace Draft

/-- Nothing read. -/
def blank : Draft := ⟨none, none, none, none, none, none⟩

/-- The record of a draft; the first field that is missing is reported. -/
def finish (d : Draft) : Except Json.Error Record :=
  let missing (name : String) : Json.Error := .mismatch (.missingField name)
  match d.seq with
  | none => .error (missing "seq")
  | some seq =>
    match d.timestamp with
    | none => .error (missing "timestamp")
    | some timestamp =>
      match d.elapsed with
      | none => .error (missing "elapsed_ms")
      | some elapsed =>
        match d.test with
        | none => .error (missing "test")
        | some test =>
          match d.engine with
          | none => .error (missing "engine")
          | some engine =>
            match d.failures with
            | none => .error (missing "failures")
            | some failures => .ok ⟨seq, timestamp, elapsed, test, engine, failures⟩

end Draft

/-- A field that is not there yet, after its name. -/
def readField (name : String) (sofar : Option α) (item : Json.Reader α) (put : α → Draft) :
    Json.Reader Draft := fun s =>
  if sofar.isSome then .error (.mismatch (.duplicateField name))
  else do
    let (_, s) ← Json.colon s
    let (a, s) ← item s
    return (put a, s)

/-- One more member of a record. -/
def readMember (depth : Nat) (d : Draft) (name : String) : Json.Reader Draft := fun s =>
  if name = "seq" then
    readField name d.seq Json.readNatural (fun a => { d with seq := some a }) s
  else if name = "timestamp" then
    readField name d.timestamp readTimestamp (fun a => { d with timestamp := some a }) s
  else if name = "elapsed_ms" then
    readField name d.elapsed Json.readNatural (fun a => { d with elapsed := some a }) s
  else if name = "test" then
    readField name d.test readPath (fun a => { d with test := some a }) s
  else if name = "engine" then
    readField name d.engine (Json.readString "a string") (fun a => { d with engine := some a }) s
  else if name = "failures" then
    readField name d.failures (Verdict.read depth) (fun a => { d with failures := some a }) s
  else do
    let (_, s) ← Json.colon s
    let (_, s) ← Json.skipValue s
    return (d, s)

/-- The next of the six elements; `index` says which. -/
def readElement (index : Nat) (item : Json.Reader α) : Json.Reader α := fun s =>
  match Json.nextElement item (index == 0) s with
  | .error e => .error e
  | .ok (none, _) =>
    .error (.mismatch (.invalidLength index "struct RecordedResult with 6 elements"))
  | .ok (some a, rest) => .ok (a, rest)

/-- A record off the front of a text. -/
def read : Json.Reader Record := fun s =>
  match Json.skipBlanks s with
  | [] => .error .malformed
  | c :: rest =>
    if c = '\x7b' then do
      let (d, s) ←
        Json.members (readMember (Json.depthLimit - 1)) (rest.length + 1) true .blank rest
      let r ← d.finish
      let (_, s) ← Json.endObject s
      return (r, s)
    else if c = '[' then do
      let (seq, s) ← readElement 0 Json.readNatural rest
      let (timestamp, s) ← readElement 1 readTimestamp s
      let (elapsed, s) ← readElement 2 Json.readNatural s
      let (test, s) ← readElement 3 readPath s
      let (engine, s) ← readElement 4 (Json.readString "a string") s
      let (failures, s) ← readElement 5 (Verdict.read (Json.depthLimit - 1)) s
      let (_, s) ← Json.endSequence s
      return (⟨seq, timestamp, elapsed, test, engine, failures⟩, s)
    else Json.mismatched "struct RecordedResult" (c :: rest)

/-- The record that a JSON text stands for. -/
def decode (s : String) : Except Json.Error Record := Json.decode read s

end Record

namespace BuildTarget

/-- The names of the targets. -/
def names : List String := ["debug", "release"]

/-- The target of that exact name off the front of a text.  It has to be a string. -/
def readName : Json.Reader BuildTarget := fun s =>
  match Json.skipBlanks s with
  | '"' :: rest => do
    let (name, rest) ← Json.readString "variant identifier" ('"' :: rest)
    match ofName? name with
    | some t => return (t, rest)
    | none => .error (.mismatch (.unknownVariant name names))
  | _ => .error .malformed

/-- The value `null` off the front of a text. -/
def readUnit : Json.Reader Unit := fun s =>
  match Json.skipBlanks s with
  | 'n' :: rest => Json.expect "ull".toList rest
  | s => Json.mismatched "unit" s

/-- A target off the front of a text: its name, or an object of that one name and `null`. -/
def read : Json.Reader BuildTarget := fun s =>
  match Json.skipBlanks s with
  | [] => .error .malformed
  | c :: rest =>
    if c = '\x7b' then do
      let (t, s) ← readName rest
      let (_, s) ← Json.colon s
      let (_, s) ← readUnit s
      let (_, s) ← Json.endObject s
      return (t, s)
    else readName (c :: rest)

/-- The target that a JSON text stands for. -/
def decode (s : String) : Except Json.Error BuildTarget := Json.decode read s

end BuildTarget

end Baseline
