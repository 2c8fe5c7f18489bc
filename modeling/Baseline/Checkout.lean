import Baseline.Environment
import Baseline.FileTree

/-!
# Checkouts

A checkout says where tests and their baselines live.  A test is known by its
path relative to the tests; that path is made of names only, so whatever is
joined to an output root stays inside it.

A baseline is looked for under the platform's directory first and beside the
test second; when it is in neither place, the platform's place is meant.
-/

namespace Baseline

namespace Component

/-- The name, when the component is one. -/
def name? : Component → Option Name
  | .normal n => some n
  | _ => none

end Component

/-- Where tests, baselines and the word-diff tool are. -/
structure Checkout where
  testsDir : Path
  /-- The directory that holds one directory of baselines for each platform. -/
  baselineDir : Path
  wordDiffTool : Option Path
deriving DecidableEq

namespace Checkout

/-- The piece of a file name that marks a baseline. -/
def expectedMark : Bytes := Utf8.encode "-expected"

/-- The word-diff tool when nothing names one. -/
def defaultTool : Path := .ofString "wdiff"

/-- The checkout at a directory, with its baselines under `platform`. -/
def ofDirectory (dir : Path) : Checkout where
  testsDir := dir
  baselineDir := dir.join (.ofString "platform")
  wordDiffTool := none

/-- The checkout with its baselines elsewhere. -/
def withBaselineDir (c : Checkout) (dir : Path) : Checkout := { c with baselineDir := dir }

/-- The names of a test below the tests' directory, or all its names when it is not there. -/
def relativeNames (c : Checkout) (test : Path) : List Name :=
  ((Path.componentsBelow? c.testsDir test).getD test.components).filterMap Component.name?

/-- The path of a test relative to the tests' directory. -/
def relative (c : Checkout) (test : Path) : Path := .ofNames (c.relativeNames test)

/-- The directory that holds a test, relative to the tests' directory. -/
def relativeParent (c : Checkout) (test : Path) : Path := (c.relative test).parent?.getD .empty

/-- The directory of a platform's baselines. -/
def platformRoot (c : Checkout) (platform : String) : Path :=
  c.baselineDir.join (.ofString platform)

/-- The executable that makes word diffs. -/
def tool (c : Checkout) (env : Environment) : Path :=
  (c.wordDiffTool.or env.toolPath?).getD defaultTool

/-- The file name of a test's baseline. -/
def expectedName (test : Path) (suffix : String) : Name :=
  test.fileStem?.getD [] ++ expectedMark ++ Utf8.encode suffix

/-- The directory of a test's baselines for a platform. -/
def platformDirectory (c : Checkout) (platform : String) (test : Path) : Path :=
  (c.platformRoot platform).join (c.relativeParent test)

/-- Where a platform keeps a test's baseline. -/
def platformBaseline (c : Checkout) (platform : String) (test : Path) (suffix : String) : Path :=
  (c.platformDirectory platform test).join ⟨expectedName test suffix⟩

/-- Where a test's baseline is when all platforms share it. -/
def sharedBaseline (test : Path) (suffix : String) : Path :=
  test.withFileName (expectedName test suffix)

/-- The baseline that a test is compared with. -/
def expectedBaseline (c : Checkout) (files : FileTree) (platform : String) (test : Path)
    (suffix : String) : Path :=
  if files.isFile (c.platformBaseline platform test suffix) then
    c.platformBaseline platform test suffix
  else if files.isFile (sharedBaseline test suffix) then sharedBaseline test suffix
  else c.platformBaseline platform test suffix

end Checkout

end Baseline
