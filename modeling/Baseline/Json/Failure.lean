import Baseline.Failure
import Baseline.Json.Reader

/-!
# Failures in JSON

A failure is an object whose member `kind` names it; the fields of that kind are
further members.  The kind need not come first, so the members are kept until
all are read, and those that are no field of the kind are passed over.  An array
of the kind and the fields in order is read as well.
-/

namespace Baseline

namespace Failure

/-- Which failure it is. -/
inductive Kind
  | textMismatch
  | missingText
  | checksumMismatch
  | missingChecksum
  | missingImage
  | missingActualChecksum
deriving DecidableEq

namespace Kind

/-- All kinds, in the order they are listed in reports. -/
def all : List Kind :=
  [.textMismatch, .missingText, .checksumMismatch, .missingChecksum, .missingImage,
   .missingActualChecksum]

/-- The name of a kind. -/
def name : Kind → String
  | .textMismatch => "text_mismatch"
  | .missingText => "missing_text"
  | .checksumMismatch => "checksum_mismatch"
  | .missingChecksum => "missing_checksum"
  | .missingImage => "missing_image"
  | .missingActualChecksum => "missing_actual_checksum"

/-- The kind of a name. -/
def ofName? (s : String) : Option Kind := all.find? fun k => k.name = s

end Kind

/-- The kind of a failure. -/
def kind : Failure → Kind
  | .textMismatch _ => .textMismatch
  | .missingText => .missingText
  | .checksumMismatch _ _ => .checksumMismatch
  | .missingChecksum => .missingChecksum
  | .missingImage => .missingImage
  | .missingActualChecksum => .missingActualChecksum

/-- The fields of a failure with their names. -/
def fields : Failure → List (String × Json.Value)
  | .textMismatch wordDiff => [("word_diff", .bool wordDiff)]
  | .checksumMismatch expected actual =>
    [("expected", .string expected), ("actual", .string actual)]
  | _ => []

/-- A failure as a JSON value. -/
def toJson (f : Failure) : Json.Value := .object (("kind", .string f.kind.name) :: f.fields)

/-! ### Reading -/

/-- The fault of a value that is not what is expected. -/
def mismatch (v : Json.Value) (expected : String) : Json.Error :=
  .mismatch (.invalidType v.found expected)

/-- A value as a flag. -/
def flagOf : Json.Value → Except Json.Error Bool
  | .bool b => .ok b
  | v => .error (mismatch v "a boolean")

/-- A value as a text. -/
def textOf : Json.Value → Except Json.Error String
  | .string s => .ok s
  | v => .error (mismatch v "a string")

/-- The fault of an array with too many elements. -/
def tooLong (fields length : Nat) : Json.Error :=
  .mismatch (.invalidLength length
    (toString fields ++ (if fields = 1 then " element" else " elements") ++ " in sequence"))

/-- The fault of an array with too few elements. -/
def tooShort (length : Nat) (shape : String) : Json.Error :=
  .mismatch (.invalidLength length ("struct variant TestFailure::" ++ shape))

/-- A field taken from the members of an object: the members in order, a repeated one refused. -/
def fieldOf (name : String) (read : Json.Value → Except Json.Error α) (v : Json.Value)
    (sofar : Option α) : Except Json.Error (Option α) :=
  if sofar.isSome then .error (.mismatch (.duplicateField name)) else (read v).map some

/-- The flag of a text mismatch among members. -/
def flagAmong : List (String × Json.Value) → Option Bool → Except Json.Error Failure
  | [], some b => .ok (.textMismatch b)
  | [], none => .error (.mismatch (.missingField "word_diff"))
  | (k, v) :: rest, sofar =>
    if k = "word_diff" then do
      let sofar ← fieldOf k flagOf v sofar
      flagAmong rest sofar
    else flagAmong rest sofar

/-- The two checksums of a mismatch among members. -/
def checksumsAmong : List (String × Json.Value) → Option String → Option String →
    Except Json.Error Failure
  | [], some expected, some actual => .ok (.checksumMismatch expected actual)
  | [], none, _ => .error (.mismatch (.missingField "expected"))
  | [], some _, none => .error (.mismatch (.missingField "actual"))
  | (k, v) :: rest, expected, actual =>
    if k = "expected" then do
      let expected ← fieldOf k textOf v expected
      checksumsAmong rest expected actual
    else if k = "actual" then do
      let actual ← fieldOf k textOf v actual
      checksumsAmong rest expected actual
    else checksumsAmong rest expected actual

/-- The failure of a kind without fields. -/
def plain? : Kind → Option Failure
  | .missingText => some .missingText
  | .missingChecksum => some .missingChecksum
  | .missingImage => some .missingImage
  | .missingActualChecksum => some .missingActualChecksum
  | _ => none

/-- The failure of a kind with the given members. -/
def ofMembers (kind : Kind) (members : List (String × Json.Value)) : Except Json.Error Failure :=
  match plain? kind with
  | some f => .ok f
  | none =>
    if kind = .textMismatch then flagAmong members none else checksumsAmong members none none

/-- The failure of a kind with the given elements. -/
def ofElements (kind : Kind) (vs : List Json.Value) : Except Json.Error Failure :=
  match plain? kind with
  | some f => if vs = [] then .ok f else .error (tooLong 0 vs.length)
  | none =>
    if kind = .textMismatch then
      match vs with
      | [] => .error (tooShort 0 "TextMismatch with 1 element")
      | v :: rest => do
        let b ← flagOf v
        if rest = [] then .ok (.textMismatch b) else .error (tooLong 1 vs.length)
    else
      let short (n : Nat) : Json.Error := tooShort n "ChecksumMismatch with 2 elements"
      match vs with
      | [] => .error (short 0)
      | [v] => do
        let _ ← textOf v
        .error (short 1)
      | v :: w :: rest => do
        let expected ← textOf v
        let actual ← textOf w
        if rest = [] then .ok (.checksumMismatch expected actual) else .error (tooLong 2 vs.length)

/-- The kind of a failure off the front of a text. -/
def readKind : Json.Reader Kind := fun s =>
  match Json.readString "variant identifier" s with
  | .error e => .error e
  | .ok (name, rest) =>
    match Kind.ofName? name with
    | some k => .ok (k, rest)
    | none => .error (.mismatch (.unknownVariant name (Kind.all.map Kind.name)))

/-- One more member: the kind, or a value that is kept. -/
def readMember (depth : Nat) (sofar : Option Kind × List (String × Json.Value)) (name : String) :
    Json.Reader (Option Kind × List (String × Json.Value)) := fun s =>
  if name = "kind" then
    if sofar.1.isSome then .error (.mismatch (.duplicateField "kind"))
    else do
      let (_, s) ← Json.colon s
      let (k, s) ← readKind s
      return ((some k, sofar.2), s)
  else do
    let (_, s) ← Json.colon s
    let (v, s) ← Json.readValue depth s
    return ((sofar.1, sofar.2 ++ [(name, v)]), s)

/-- A failure off the front of a text, with fewer than `depth` arrays and objects inside each
other. -/
def read (depth : Nat) : Json.Reader Failure := fun s =>
  match Json.skipBlanks s with
  | [] => .error .malformed
  | c :: rest =>
    if c = '\x7b' ∨ c = '[' then
      if depth ≤ 1 then .error .malformed
      else if c = '\x7b' then do
        let ((kind, members), s) ←
          Json.members (readMember (depth - 1)) (rest.length + 1) true (none, []) rest
        match kind with
        | none => .error (.mismatch (.missingField "kind"))
        | some kind =>
          let (_, s) ← Json.endObject s
          let f ← ofMembers kind members
          return (f, s)
      else do
        let (kind, s) ← Json.nextElement readKind true rest
        match kind with
        | none => .error (.mismatch (.missingField "kind"))
        | some kind =>
          let (vs, s) ← Json.elements (Json.readValue (depth - 1)) (s.length + 1) false s
          let (_, s) ← Json.endSequence s
          let f ← ofElements kind vs
          return (f, s)
    else Json.mismatched "internally tagged enum TestFailure" (c :: rest)

/-- The failure that a JSON text stands for. -/
def decode (s : String) : Except Json.Error Failure := Json.decode (read Json.depthLimit) s

end Failure

namespace Verdict

/-- A verdict as a JSON value. -/
def toJson (v : Verdict) : Json.Value := .array (v.map Failure.toJson)

/-- A verdict off the front of a text, with fewer than `depth` arrays and objects inside each
other. -/
def read (depth : Nat) : Json.Reader Verdict := fun s =>
  match Json.skipBlanks s with
  | [] => .error .malformed
  | c :: rest =>
    if c = '[' then
      if depth ≤ 1 then .error .malformed
      else do
        let (v, s) ← Json.elements (Failure.read (depth - 1)) (rest.length + 1) true rest
        let (_, s) ← Json.endSequence s
        return (v, s)
    else Json.mismatched "a sequence" (c :: rest)

/-- The verdict that a JSON text stands for. -/
def decode (s : String) : Except Json.Error Verdict := Json.decode (read Json.depthLimit) s

end Verdict

end Baseline
