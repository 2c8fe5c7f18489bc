import Baseline.Event
import Baseline.Event.Pattern
import Baseline.Text.Blank

/-!
# Filters of events

Which events are shown.  A filter is a list of rules with commas between them.  A
rule is a level, `debug`, or the name of a part of the program, `a::b`, or both,
`a::b=debug`; a part alone shows all of its events.  Behind the part may stand, in
brackets, a span and fields in braces: fields ask for events that have them, and a
span or a field with a value confines the rule to what happens inside spans, which
no event here does.

Of the rules that are for an event the most specific one decides: the one with
the longest name, then the one with the most fields, and of equals the last.
-/

namespace Baseline.Event

/-- The levels that are shown: none, or one and those above it. -/
abbrev Threshold := Option Level

/-- Whether a level is shown. -/
def Threshold.shows (t : Threshold) (l : Level) : Bool := t.any fun m => l.rank ≤ m.rank

/-- The threshold that shows everything. -/
def Threshold.all : Threshold := some .debug

/-- A rule of a filter. -/
structure Rule where
  /-- How the names of the parts start that it is for; it is for all parts when there is none. -/
  origin : Option String
  /-- The fields that an event must have. -/
  fields : List String
  /-- It is for what happens inside spans. -/
  confined : Bool
  threshold : Threshold

/-- The rules of a filter. -/
abbrev Filter := List Rule

namespace Rule

/-- The rule for all events. -/
def general (t : Threshold) : Rule := ⟨none, [], false, t⟩

/-- Whether a rule is for an event. -/
def isFor (r : Rule) (e : Event) : Bool :=
  !r.confined && r.origin.all (fun name => name.toList.isPrefixOf e.origin.toList) &&
    r.fields.all fun name => name = "message" || (e.fields.map Prod.fst).contains name

/-- How specific the name of a rule is. -/
def reach (r : Rule) : Nat :=
  match r.origin with
  | some name => name.utf8ByteSize + 1
  | none => 0

/-- Whether names come before others in order, or are the same. -/
def notAfter : List String → List String → Bool
  | [], _ => true
  | _ :: _, [] => false
  | x :: xs, y :: ys =>
    if x = y then notAfter xs ys else (Utf8.encode x).before (Utf8.encode y)

/-- Whether the second of two rules that are for one event decides. -/
def yields (a b : Rule) : Bool :=
  decide (a.reach < b.reach) ||
    (a.reach == b.reach &&
      (decide (a.fields.length < b.fields.length) ||
        (a.fields.length == b.fields.length && notAfter a.fields b.fields)))

end Rule

namespace Filter

/-- The filter that shows levels from a threshold up. -/
def ofThreshold (t : Threshold) : Filter := [.general t]

/-- The rule that decides about an event. -/
def decisive? (f : Filter) (e : Event) : Option Rule :=
  (f.filter (·.isFor e)).foldl
    (fun best r => match best with
      | some b => if b.yields r then some r else some b
      | none => some r) none

/-- Whether an event is shown. -/
def shows (f : Filter) (e : Event) : Bool := (f.decisive? e).any (·.threshold.shows e.level)

/-! ### Reading -/

/-- The number that digits write, perhaps after a plus sign. -/
def number? (s : List Char) : Option Nat :=
  let ds := match s with
    | '+' :: rest => rest
    | _ => s
  if ds ≠ [] ∧ ds.all Char.isDigit then
    some (ds.foldl (fun n c => n * 10 + (c.toNat - '0'.toNat)) 0)
  else none

/-- The threshold of a level's name, capitals or not, or of its number.  Nothing shows errors
only. -/
def threshold? (s : List Char) : Option Threshold :=
  match number? s with
  | some 0 => some none
  | some 1 => some (some .error)
  | some 2 => some (some .warn)
  | some 3 => some (some .info)
  | some 4 | some 5 => some Threshold.all
  | some _ => none
  | none =>
    match String.ofList (s.map Char.toLower) with
    | "off" => some none
    | "" | "error" => some (some .error)
    | "warn" => some (some .warn)
    | "info" => some (some .info)
    | "debug" | "trace" => some Threshold.all
    | _ => none

/-- The threshold after an equals sign: of everything when nothing stands there. -/
def thresholdAfter? (s : List Char) : Option Threshold :=
  if s = [] then some Threshold.all else threshold? s

/-- Whether a rule may start with a character. -/
def startsRule (c : Char) : Bool := c == '-' || c == ':' || c == '_' || Text.isAlphanumeric c

/-- What is being read of a rule, and the place where that starts. -/
inductive Stage
  | start
  | name
  | span (place : Nat)
  | field (place : Nat)
  | fields
  | brackets
  | level (place : Nat)

/-- The rule that a part of the program has, whose name may also be a level. -/
def named (s : List Char) : Rule :=
  match threshold? s with
  | some t => .general t
  | none => ⟨some (String.ofList s), [], false, Threshold.all⟩

/-- The rule with one more field, perhaps with a value. -/
def withField? (r : Rule) (s : List Char) : Option Rule :=
  let name := s.takeWhile (· != '=')
  let r := { r with fields := r.fields ++ [String.ofList name] }
  match s.drop name.length with
  | [] => if s = [] then none else some r
  | _ :: value =>
    if Pattern.isValue (value.takeWhile (· != '=')) then some { r with confined := true } else none

/-- Take one character at a place; `text` gives the characters between two places. -/
def take? (text : Nat → Nat → List Char) (place : Nat) (c : Char) :
    Stage × Rule → Option (Stage × Rule)
  | (.start, r) =>
    if c = '[' then some (.span (place + 1), r)
    else if startsRule c then some (.name, r)
    else none
  | (.name, r) =>
    let named := { r with origin := some (String.ofList (text 0 place)) }
    if c = '=' then some (.level (place + 1), named)
    else if c = '[' then some (.span (place + 1), named)
    else some (.name, r)
  | (.span start, r) =>
    if c = ']' then some (.brackets, { r with confined := true })
    else if c = '\x7b' then
      some (.field (place + 1), { r with confined := text start place != [] })
    else some (.span start, r)
  | (.field start, r) =>
    if c = '\x7d' then (withField? r (text start place)).map fun r => (.fields, r)
    else some (.field start, r)
  | (.fields, r) => if c = ']' then some (.brackets, r) else none
  | (.brackets, r) => if c = '=' then some (.level (place + 1), r) else none
  | (.level start, r) => some (.level start, r)

/-- A rule; none when it is not written as rules are.  Blanks around it say nothing about where
its parts are, but belong to the text that the parts are taken from: blanks in front move all of
them. -/
def rule? (s : List Char) : Option Rule := do
  let inner := Text.trimChars s
  let text (start stop : Nat) : List Char := (s.take stop).drop start
  let (stage, r) ← inner.zipIdx.foldlM (fun state (c, place) => take? text place c state)
    (Stage.start, Rule.general Threshold.all)
  match stage with
  | .name => return named s
  | .level start => return { r with threshold := ← thresholdAfter? (s.drop start) }
  | .brackets => return r
  | _ => none

/-- The parts of a text between its commas. -/
def pieces (s : List Char) : List (List Char) :=
  s.foldr (fun c parts =>
    if c = ',' then [] :: parts
    else match parts with
      | part :: rest => (c :: part) :: rest
      | [] => [[c]]) [[]]

/-- The filter that a text writes; none when one of its rules is not written as rules are.  A text
without rules shows errors only. -/
def parse? (s : String) : Option Filter := do
  let rules ← ((pieces s.toList).filter (!·.isEmpty)).mapM rule?
  if rules = [] then return ofThreshold (some .error) else return rules

end Filter

end Baseline.Event
