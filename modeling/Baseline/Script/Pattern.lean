/-!
# Patterns

A pattern is a text in which `*` stands for any text, `?` for any character and
brackets for one of the characters in them.  A character that was quoted, or that a
backslash precedes, stands for itself.

A pattern fits a whole text.  `Pattern.cutFront` takes off what it fits at the front of a
text, and `Pattern.cutAll` at an end of several.
-/

namespace Baseline.Script

/-- A character of a pattern. -/
structure Mark where
  char : Char
  quoted : Bool
deriving DecidableEq

/-- What brackets hold. -/
inductive Member
  | range (first last : Char)
  | kind (name : List Char)

/-- A part of a pattern. -/
inductive Slot
  | one (c : Char)
  | any
  | many
  | members (negated : Bool) (ms : List Member)

/-- A pattern. -/
abbrev Pattern := List Slot

namespace Pattern

/-- Whether a character is of a named kind. -/
def isOfKind (name : List Char) (c : Char) : Bool :=
  let isPunctuation := 33 ≤ c.toNat ∧ c.toNat < 127 ∧ !c.isAlphanum
  let is (s : String) : Bool := name == s.toList
  if is "alpha" then c.isAlpha
  else if is "digit" then c.isDigit
  else if is "alnum" then c.isAlphanum
  else if is "upper" then c.isUpper
  else if is "lower" then c.isLower
  else if is "space" then c == ' ' || (9 ≤ c.toNat && c.toNat ≤ 13)
  else if is "blank" then c == ' ' || c == '\t'
  else if is "punct" then isPunctuation
  else if is "print" then 32 ≤ c.toNat && c.toNat < 127
  else if is "graph" then 33 ≤ c.toNat && c.toNat < 127
  else if is "cntrl" then c.toNat < 32 || c.toNat == 127
  else if is "xdigit" then c.isDigit || "abcdefABCDEF".toList.contains c
  else false

namespace Member

/-- Whether a character is in a range or of a kind. -/
def holds (m : Member) (c : Char) : Bool :=
  match m with
  | .range first last => first ≤ c && c ≤ last
  | .kind name => isOfKind name c

end Member

/-- The name of a kind between colons and what is after its bracket. -/
def kind? (s : List Mark) : Option (List Char × List Mark) :=
  match s with
  | ⟨':', _⟩ :: rest =>
    let name := rest.takeWhile fun m => m.char.isAlpha
    match rest.drop name.length with
    | ⟨':', _⟩ :: ⟨']', _⟩ :: rest => some (name.map Mark.char, rest)
    | _ => none
  | _ => none

/-- The members up to a closing bracket and what is after it; the first character closes nothing. 
The first argument bounds the number of members. -/
def members? : Nat → Bool → List Mark → Option (List Member × List Mark)
  | 0, _, _ => none
  | _ + 1, _, [] => none
  | bound + 1, first, m :: rest =>
    let more (x : Member) (rest : List Mark) : Option (List Member × List Mark) :=
      (members? bound false rest).map fun (xs, rest) => (x :: xs, rest)
    if m.char = ']' ∧ !m.quoted ∧ !first then some ([], rest)
    else
      match if m.char = '[' ∧ !m.quoted then kind? rest else none with
      | some (name, rest) => more (.kind name) rest
      | none =>
        match rest with
        | ⟨'-', false⟩ :: last :: rest' =>
          if last.char = ']' ∧ !last.quoted then more (.range m.char m.char) rest
          else more (.range m.char last.char) rest'
        | _ => more (.range m.char m.char) rest

/-- The pattern that characters write.  A bracket that is not closed stands for itself.  The first
argument bounds the number of steps. -/
def slots : Nat → List Mark → Pattern
  | 0, _ => []
  | _ + 1, [] => []
  | bound + 1, m :: rest =>
    if m.quoted then .one m.char :: slots bound rest
    else if m.char = '\\' then
      match rest with
      | n :: rest => .one n.char :: slots bound rest
      | [] => [.one '\\']
    else if m.char = '*' then .many :: slots bound rest
    else if m.char = '?' then .any :: slots bound rest
    else if m.char = '[' then
      let (negated, inside) := match rest with
        | ⟨'!', false⟩ :: rest => (true, rest)
        | rest => (false, rest)
      match members? (inside.length + 1) true inside with
      | some (ms, rest) => .members negated ms :: slots bound rest
      | none => .one '[' :: slots bound rest
    else .one m.char :: slots bound rest

/-- The pattern that characters write. -/
def ofMarks (s : List Mark) : Pattern := slots (s.length + 1) s

/-- Whether a text is one that the first part may start: it fits the rest from some place on. -/
def fitsFrom (rest : List Char → Bool) : List Char → Bool
  | [] => rest []
  | c :: s => rest (c :: s) || fitsFrom rest s

/-- Whether a pattern fits a text. -/
def fits : Pattern → List Char → Bool
  | [], s => s.isEmpty
  | .many :: p, s => fitsFrom (fits p) s
  | .one c :: p, d :: s => c == d && fits p s
  | .any :: p, _ :: s => fits p s
  | .members negated ms :: p, d :: s => (ms.any (Member.holds · d) != negated) && fits p s
  | _ :: _, [] => false

/-- Whether a pattern can stand for more than one text. -/
def isOpen (p : Pattern) : Bool := p.any fun
  | .one _ => false
  | _ => true

/-- Where the shortest or the longest part at the front ends that a pattern fits. -/
def frontFit? (p : Pattern) (longest : Bool) (s : List Char) : Option Nat :=
  let places := List.range (s.length + 1)
  (if longest then places.reverse else places).find? fun n => fits p (s.take n)

/-- Where the shortest or the longest part at the end begins that a pattern fits. -/
def backFit? (p : Pattern) (longest : Bool) (s : List Char) : Option Nat :=
  let places := List.range (s.length + 1)
  (if longest then places else places.reverse).find? fun n => fits p (s.drop n)

/-- The text without a part at its front that a pattern fits. -/
def cutFront (p : Pattern) (longest : Bool) (s : List Char) : List Char :=
  match p.frontFit? longest s with
  | some n => s.drop n
  | none => s

/-- Texts, the last first, up to the first in which a pattern fits a part at the end, without that
part; none when it fits none. -/
def cutLast? (p : Pattern) : List (List Char) → Option (List (List Char))
  | [] => none
  | s :: before =>
    match p.backFit? false s with
    | some n => some (s.take n :: before)
    | none => cutLast? p before

/-- Texts that are cut as if they were one.  A front is cut from the first text alone.  The longest
part at the end begins in the first text or nowhere, the shortest as late as it can, and the
texts after it go with it. -/
def cutAll (p : Pattern) (front longest : Bool) (ss : List (List Char)) : List (List Char) :=
  match ss with
  | [] => []
  | s :: rest =>
    if front then p.cutFront longest s :: rest
    else if longest then
      match p.backFit? true s with
      | some n => [s.take n]
      | none => s :: rest
    else
      match p.cutLast? ss.reverse with
      | some cut => cut.reverse
      | none => ss

end Pattern

end Baseline.Script
