import Baseline.Text.Utf8

/-!
# Paths

A path is a byte string; what it means is its list of components.  Repeated
slashes, a slash at the end and every `.` but the first of a relative path say
nothing, so two paths with the same components name the same thing.

The operations that build one path from another work on the bytes as written
(`parent?` keeps the inner slashes of what is left), and `parts` links the two
views: each component with the bytes of the path up to its end.
-/

namespace Baseline

/-- A file name: a component of a path as bytes. -/
abbrev Name := Bytes

/-- The byte that separates components. -/
def slash : UInt8 := 47

/-- The byte that starts an extension. -/
def dot : UInt8 := 46

/-- A path as it is written. -/
structure Path where
  bytes : Bytes
deriving DecidableEq

/-- One step of a path. -/
inductive Component
  /-- The slash that an absolute path begins with. -/
  | root
  /-- The `.` that a relative path begins with. -/
  | current
  /-- A `..`. -/
  | parent
  /-- A name. -/
  | normal (name : Name)
deriving DecidableEq

namespace Path

/-- The path that a text spells. -/
def ofString (s : String) : Path := ⟨Utf8.encode s⟩

/-- A path as text, each invalid sequence shown as U+FFFD. -/
def text (p : Path) : String := Utf8.decodeLossy p.bytes

/-- The empty path. -/
def empty : Path := ⟨[]⟩

/-- Whether a path starts at the root. -/
def isAbsolute (p : Path) : Bool := p.bytes.head? == some slash

/-! ### Components -/

/-- A byte string cut at its slashes; there is one more piece than slashes. -/
def segments : Bytes → List Bytes
  | [] => [[]]
  | b :: rest =>
    if b = slash then [] :: segments rest
    else
      match segments rest with
      | [] => [[b]]
      | s :: more => (b :: s) :: more

/-- The component that a piece after the first stands for: none for an empty one and for `.`. -/
def componentOf (s : Bytes) : Option Component :=
  if s = [] ∨ s = [dot] then none
  else if s = [dot, dot] then some .parent
  else some (.normal s)

/-- The components of the pieces after `before`, each with the bytes through its end. -/
def partsAfter (before : Bytes) : List Bytes → List (Component × Bytes)
  | [] => []
  | s :: rest =>
    let through := before ++ slash :: s
    match componentOf s with
    | some c => (c, through) :: partsAfter through rest
    | none => partsAfter through rest

/-- The components of a path, each with the bytes of the path through its end. -/
def parts (p : Path) : List (Component × Bytes) :=
  match segments p.bytes with
  | [] => []
  | [[]] => []
  | [] :: rest => (.root, [slash]) :: partsAfter [] rest
  | s :: rest =>
    let first := if s = [dot] then .current else if s = [dot, dot] then .parent else .normal s
    (first, s) :: partsAfter s rest

/-- The components of a path. -/
def components (p : Path) : List Component := p.parts.map (·.1)

/-- The names among the components, in order. -/
def names (p : Path) : List Name :=
  p.components.filterMap fun
    | .normal n => some n
    | _ => none

/-- The relative path made of the given names. -/
def ofNames : List Name → Path
  | [] => empty
  | [n] => ⟨n⟩
  | n :: rest => ⟨n ++ slash :: (ofNames rest).bytes⟩

/-- A path without its root, `.` and `..` components. -/
def normalize (p : Path) : Path := ofNames p.names

/-- The components of `p` after those of `base`, when `p` begins with them. -/
def componentsBelow? (base p : Path) : Option (List Component) :=
  if base.components.isPrefixOf p.components then
    some (p.components.drop base.components.length)
  else none

/-! ### Building paths -/

/-- `p` followed by `q`; an absolute `q` replaces `p`. -/
def join (p q : Path) : Path :=
  if q.isAbsolute then q
  else if p.bytes = [] ∨ p.bytes.getLast? = some slash then ⟨p.bytes ++ q.bytes⟩
  else ⟨p.bytes ++ slash :: q.bytes⟩

/-- The bytes up to the last component but one; none for the root and the empty path. -/
def parent? (p : Path) : Option Path :=
  match p.parts.reverse with
  | [] => none
  | (.root, _) :: _ => none
  | [_] => some empty
  | _ :: (_, through) :: _ => some ⟨through⟩

/-- A path and its parents, the longest first. -/
def ancestors (p : Path) : List Path :=
  match p.parts with
  | [] => [p]
  | (c, through) :: rest =>
    let above := (((c, through) :: rest).dropLast.map fun part => (⟨part.2⟩ : Path)).reverse
    if c = .root then p :: above else p :: (above ++ [empty])

/-- The last component, when it is a name. -/
def fileName? (p : Path) : Option Name :=
  match p.parts.getLast? with
  | some (.normal n, _) => some n
  | _ => none

/-- A name cut at its last dot, when it has one: what stands before and after it. -/
def splitLastDot? : Name → Option (Name × Name)
  | [] => none
  | b :: rest =>
    match splitLastDot? rest with
    | some (before, after) => some (b :: before, after)
    | none => if b = dot then some ([], rest) else none

/-- A name up to its last dot; the whole name when no dot but the first byte is there. -/
def stemOf (n : Name) : Name :=
  match splitLastDot? n with
  | some ([], _) => n
  | some (before, _) => before
  | none => n

/-- What follows the last dot of a name, unless that dot is the first byte. -/
def extensionOf? (n : Name) : Option Name :=
  match splitLastDot? n with
  | some ([], _) => none
  | some (_, after) => some after
  | none => none

/-- The stem of the last component, when that is a name. -/
def fileStem? (p : Path) : Option Name := p.fileName?.map stemOf

/-- The path with its last name replaced by the stem of that name, and nothing after it; a
path that ends in no name stays. -/
def cutToStem (p : Path) : Path :=
  match p.parts.getLast? with
  | some (.normal n, through) => ⟨through.take (through.length - n.length) ++ stemOf n⟩
  | _ => p

/-- The path without the extension of its last name.  The extension's bytes are taken off the end
of the path before the name is cut to its stem, so a name that is then `..` is no name any more
and stays. -/
def withoutExtension (p : Path) : Path :=
  match p.fileName?.bind extensionOf? with
  | some e => cutToStem ⟨p.bytes.take (p.bytes.length - e.length)⟩
  | none => cutToStem p

/-- The path with its last name replaced; a path that ends in no name is extended. -/
def withFileName (p : Path) (n : Name) : Path :=
  match p.fileName? with
  | some _ => (p.parent?.getD empty).join ⟨n⟩
  | none => p.join ⟨n⟩

/-- The path with bytes added at its end. -/
def append (p : Path) (b : Bytes) : Path := ⟨p.bytes ++ b⟩

end Path

end Baseline
