import Baseline.Path
import Baseline.Fault

/-!
# File trees

A file tree is a finite map from locations to nodes in which every node stands
in a directory (`FileTree.closed`), together with the directory that relative
paths start from.  `FileTree.node?` is the view: what is at a location.

`setFile`, `addDirectory` and `removeAt` are the only changes.  The operations on paths
(`readFile`, `writeFile`, `makeDirectory`, …) walk a path to a location first; a
walk enters directories only, so `..` below something that is no directory fails
like any other name.

A tree is plain.  It holds directories and regular files, no links, devices or pipes.  Of the
permissions of a file there is the one to run it; everything can be read, written and
entered.  An operation on a path that fails changes nothing but what it has made on the way,
and a file that opens for writing takes all that is written to it.  Where a write may stop
half-way, as on the device of a log, that is said there.
-/

namespace Baseline

/-- Where a node is: the names from the node up to the top of the tree, so the directory that
holds it is the tail. -/
abbrev Location := List Name

/-- What is at a location. -/
inductive Node
  | directory
  | file (data : Bytes) (executable : Bool)
deriving DecidableEq

namespace FileTree

/-- What a list of entries puts at a location; the top is a directory. -/
def nodeIn (entries : List (Location × Node)) : Location → Option Node
  | [] => some .directory
  | name :: above => entries.lookup (name :: above)

/-- The entries with `node` at `loc`. -/
def setIn (entries : List (Location × Node)) (loc : Location) (node : Node) :
    List (Location × Node) :=
  (loc, node) :: entries.filter fun e => e.1 != loc

/-- The entries without those at `loc` and below it. -/
def removeIn (entries : List (Location × Node)) (loc : Location) : List (Location × Node) :=
  entries.filter fun e => !loc.isSuffixOf e.1

theorem lookup_filter {p : Location → Bool} (entries : List (Location × Node)) (l : Location) :
    (entries.filter fun e => p e.1).lookup l = if p l then entries.lookup l else none := by
  induction entries with
  | nil => simp
  | cons e rest ih =>
    obtain ⟨k, n⟩ := e
    by_cases hl : l = k
    · subst hl
      by_cases hk : p l <;> simp [hk, ih]
    · have hb : (l == k) = false := by simpa using hl
      by_cases hk : p k <;> simp [hk, List.lookup_cons, hb, ih]

theorem nodeIn_setIn {entries : List (Location × Node)} {loc : Location} {node : Node}
    (h : loc ≠ []) (l : Location) :
    nodeIn (setIn entries loc node) l = if l = loc then some node else nodeIn entries l := by
  cases l with
  | nil => simp [nodeIn, Ne.symm h]
  | cons name above =>
    by_cases hl : name :: above = loc
    · simp [nodeIn, setIn, hl]
    · have hb : (name :: above == loc) = false := by simpa using hl
      have := lookup_filter (p := fun l => l != loc) entries (name :: above)
      simp only [bne, hb, Bool.not_false, if_true] at this
      simp [nodeIn, setIn, List.lookup_cons, hb, hl, bne, this]

theorem nodeIn_removeIn {entries : List (Location × Node)} {loc : Location} (h : loc ≠ [])
    (l : Location) :
    nodeIn (removeIn entries loc) l = if loc.isSuffixOf l then none else nodeIn entries l := by
  cases l with
  | nil => cases loc <;> simp_all [nodeIn]
  | cons name above =>
    have := lookup_filter (p := fun l => !loc.isSuffixOf l) entries (name :: above)
    simp only [nodeIn, removeIn, this]
    cases loc.isSuffixOf (name :: above) <;> rfl

end FileTree

/-- A tree of files and directories and the directory that relative paths start from. -/
structure FileTree where
  entries : List (Location × Node)
  /-- Where relative paths start. -/
  start : Location
  /-- Every node stands in a directory. -/
  closed : ∀ name above node, FileTree.nodeIn entries (name :: above) = some node →
    FileTree.nodeIn entries above = some .directory
  /-- Relative paths start from a directory. -/
  start_directory : FileTree.nodeIn entries start = some .directory

namespace FileTree

/-- The tree that holds nothing but its top. -/
def empty : FileTree where
  entries := []
  start := []
  closed := by intro name above node h; simp [nodeIn] at h
  start_directory := rfl

/-- What is at a location. -/
def node? (t : FileTree) (loc : Location) : Option Node := nodeIn t.entries loc

/-! ### Changes -/

/-- The tree with a file at `name` in `above`; nothing changes when `above` is no directory or
a directory has that name. -/
def setFile (t : FileTree) (above : Location) (name : Name) (data : Bytes) (executable : Bool) :
    FileTree :=
  if h : t.node? above = some .directory ∧ t.node? (name :: above) ≠ some .directory then
    { entries := setIn t.entries (name :: above) (.file data executable)
      start := t.start
      closed := by
        intro n a node hn
        rw [nodeIn_setIn (by simp)] at hn ⊢
        by_cases ha : a = name :: above
        · subst ha
          rw [if_neg (by intro e; have := congrArg List.length e; simp at this)] at hn
          exact absurd (t.closed _ _ _ hn) h.2
        · rw [if_neg ha]
          by_cases hl : n :: a = name :: above
          · obtain ⟨-, rfl⟩ := List.cons.inj hl
            exact h.1
          · rw [if_neg hl] at hn
            exact t.closed _ _ _ hn
      start_directory := by
        rw [nodeIn_setIn (by simp), if_neg]
        · exact t.start_directory
        · intro e
          exact h.2 (e ▸ t.start_directory) }
  else t

/-- The tree with a new directory at `name` in `above`; nothing changes when `above` is no
directory or something has that name. -/
def addDirectory (t : FileTree) (above : Location) (name : Name) : FileTree :=
  if h : t.node? above = some .directory ∧ t.node? (name :: above) = none then
    { entries := setIn t.entries (name :: above) .directory
      start := t.start
      closed := by
        intro n a node hn
        rw [nodeIn_setIn (by simp)] at hn ⊢
        by_cases ha : a = name :: above
        · rw [if_pos ha]
        · rw [if_neg ha]
          by_cases hl : n :: a = name :: above
          · obtain ⟨-, rfl⟩ := List.cons.inj hl
            exact h.1
          · rw [if_neg hl] at hn
            exact t.closed _ _ _ hn
      start_directory := by
        rw [nodeIn_setIn (by simp)]
        split
        · rfl
        · exact t.start_directory }
  else t

/-- The tree without what is at `loc` and below; nothing changes when relative paths start
there. -/
def removeAt (t : FileTree) (loc : Location) : FileTree :=
  if h : loc ≠ [] ∧ ¬ loc.isSuffixOf t.start then
    { entries := removeIn t.entries loc
      start := t.start
      closed := by
        intro n a node hn
        rw [nodeIn_removeIn h.1] at hn ⊢
        split at hn
        · simp at hn
        · rename_i hs
          rw [if_neg]
          · exact t.closed _ _ _ hn
          · intro ha
            apply hs
            rw [List.isSuffixOf_iff_suffix] at ha ⊢
            exact List.IsSuffix.trans ha (List.suffix_cons n a)
      start_directory := by
        rw [nodeIn_removeIn h.1, if_neg h.2]
        exact t.start_directory }
  else t

/-- The tree with relative paths starting from another directory; nothing changes when the
location is no directory. -/
def startAt (t : FileTree) (loc : Location) : FileTree :=
  if h : t.node? loc = some .directory then { t with start := loc, start_directory := h } else t

/-! ### Walking a path -/

/-- One step of a walk. -/
inductive Step
  | stay
  | up
  | down (name : Name)

/-- The longest name that a directory holds. -/
def longestName : Nat := 255

/-- Paths of this many bytes are too long. -/
def pathLimit : Nat := 4096

/-- The step that a piece between slashes stands for; `.` stays, but only in a directory. -/
def stepOf? (s : Bytes) : Option Step :=
  if s = [] then none
  else if s = [dot] then some .stay
  else if s = [dot, dot] then some .up
  else some (.down s)

/-- The steps of a path. -/
def stepsOf (p : Path) : List Step := (Path.segments p.bytes).filterMap stepOf?

/-- Whether a path ends in a slash. -/
def endsInSlash (p : Path) : Bool := p.bytes.getLast? == some slash

/-- Take the steps from a location; each needs a directory to start from. -/
def walk (t : FileTree) (loc : Location) : List Step → Except Fault Location
  | [] => .ok loc
  | s :: rest =>
    if t.node? loc = some .directory then
      match s with
      | .stay => t.walk loc rest
      | .up => t.walk loc.tail rest
      | .down name =>
        if longestName < name.length then .error .nameTooLong
        else if (t.node? (name :: loc)).isNone then .error .notFound
        else t.walk (name :: loc) rest
    else .error .notDirectory

/-- The fault of a path that no operation takes. -/
def refuse? (p : Path) : Option Fault :=
  if (0 : UInt8) ∈ p.bytes then some .zeroByteInPath
  else if p.bytes = [] then some .notFound
  else if pathLimit ≤ p.bytes.length then some .nameTooLong
  else none

/-- Where the walk along a path starts. -/
def origin (t : FileTree) (p : Path) : Location := if p.isAbsolute then [] else t.start

/-- The location of what a path names. -/
def locate (t : FileTree) (p : Path) : Except Fault Location :=
  match refuse? p with
  | some e => .error e
  | none =>
    match t.walk (t.origin p) (stepsOf p) with
    | .error e => .error e
    | .ok loc =>
      if endsInSlash p && t.node? loc != some .directory then .error .notDirectory else .ok loc

/-- Where a path puts something new. -/
inductive Slot
  /-- Under a name in a directory. -/
  | entry (above : Location) (name : Name)
  /-- Nowhere: the path ends in `.`, `..` or at the root, so it names a directory. -/
  | taken (loc : Location)

/-- Where a path puts something new: all its steps but the last are taken. -/
def slot (t : FileTree) (p : Path) : Except Fault Slot :=
  match refuse? p with
  | some e => .error e
  | none =>
    match (stepsOf p).getLast? with
    | none => .ok (.taken (t.origin p))
    | some last =>
      match t.walk (t.origin p) (stepsOf p).dropLast with
      | .error e => .error e
      | .ok loc =>
        if t.node? loc = some .directory then
          match last with
          | .stay => .ok (.taken loc)
          | .up => .ok (.taken loc.tail)
          | .down name => .ok (.entry loc name)
        else .error .notDirectory

/-! ### Operations on paths -/

/-- What a path names, when it names something. -/
def at? (t : FileTree) (p : Path) : Option Node :=
  match t.locate p with
  | .ok loc => t.node? loc
  | .error _ => none

/-- Whether a path names a file. -/
def isFile (t : FileTree) (p : Path) : Bool :=
  match t.at? p with
  | some (.file _ _) => true
  | _ => false

/-- Whether a path names a directory. -/
def isDirectory (t : FileTree) (p : Path) : Bool := t.at? p == some .directory

/-- The content of the file that a path names. -/
def readFile (t : FileTree) (p : Path) : Except Fault Bytes :=
  match t.locate p with
  | .error e => .error e
  | .ok loc =>
    match t.node? loc with
    | some (.file data _) => .ok data
    | some .directory => .error .isDirectory
    | none => .error .notFound

/-- Where a file opened for writing is: an existing file or a free name. -/
def openForWriting (t : FileTree) (p : Path) : Except Fault (Location × Name) :=
  match t.slot p with
  | .error e => .error e
  | .ok (.taken _) => .error .isDirectory
  | .ok (.entry above name) =>
    if endsInSlash p then .error .isDirectory
    else if longestName < name.length then .error .nameTooLong
    else if t.node? (name :: above) = some .directory then .error .isDirectory
    else .ok (above, name)

/-- The names in a directory. -/
def namesIn (t : FileTree) (dir : Location) : List Name :=
  t.entries.filterMap fun
    | (name :: above, _) => if above = dir then some name else none
    | ([], _) => none

/-- Whether the file at a location may be started as a program. -/
def isExecutable (t : FileTree) (loc : Location) : Bool :=
  match t.node? loc with
  | some (.file _ x) => x
  | _ => false

/-- The content of the file at a location; empty when there is none. -/
def dataAt (t : FileTree) (loc : Location) : Bytes :=
  match t.node? loc with
  | some (.file data _) => data
  | _ => []

/-- Put `data` into the file that a path names, which is made when it is missing. -/
def writeFile (t : FileTree) (p : Path) (data : Bytes) : Except Fault FileTree :=
  match t.openForWriting p with
  | .error e => .error e
  | .ok (above, name) => .ok (t.setFile above name data (t.isExecutable (name :: above)))

/-- Add `data` at the end of the file at a location. -/
def appendAt (t : FileTree) (above : Location) (name : Name) (data : Bytes) : FileTree :=
  t.setFile above name (t.dataAt (name :: above) ++ data) (t.isExecutable (name :: above))

/-- Make the directory that a path names, in a directory that exists. -/
def makeDirectory (t : FileTree) (p : Path) : Except Fault FileTree :=
  match t.slot p with
  | .error e => .error e
  | .ok (.taken _) => .error .exists_
  | .ok (.entry above name) =>
    if longestName < name.length then .error .nameTooLong
    else if (t.node? (name :: above)).isSome then .error .exists_
    else .ok (t.addDirectory above name)

/-- Make the first path of a list a directory, and the later ones first when that needs them.
Directories made before a fault stay. -/
def makeAncestors (t : FileTree) : List Path → Except Fault Unit × FileTree
  | [] => (.ok (), t)
  | p :: above =>
    if p.bytes = [] then (.ok (), t)
    else
      match t.makeDirectory p with
      | .ok made => (.ok (), made)
      | .error e =>
        if e.kind = .notFound then
          match t.makeAncestors above with
          | (.error e', t') => (.error e', t')
          | (.ok (), t') =>
            match t'.makeDirectory p with
            | .ok made => (.ok (), made)
            | .error e' => if t'.isDirectory p then (.ok (), t') else (.error e', t')
        else if t.isDirectory p then (.ok (), t)
        else (.error e, t)

/-- Make a directory and the missing ones above it; what exists as a directory is fine. -/
def ensureDirectory (t : FileTree) (p : Path) : Except Fault Unit × FileTree :=
  t.makeAncestors p.ancestors

/-- Put the content of the first file into the second, with its permission to run, which stands for
all its permissions.  The source is opened, the destination emptied, and only then is the source
read: a file copied onto itself is emptied. -/
def copyFile (t : FileTree) (source destination : Path) : Except Fault FileTree :=
  match t.locate source with
  | .error e => .error e
  | .ok from_ =>
    match t.node? from_ with
    | some (.file data executable) =>
      match t.openForWriting destination with
      | .error e => .error e
      | .ok (above, name) =>
        let data := if name :: above = from_ then [] else data
        .ok (t.setFile above name data executable)
    | _ => .error .notRegular

end FileTree

end Baseline
