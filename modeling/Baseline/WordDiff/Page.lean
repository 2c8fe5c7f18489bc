import Baseline.WordDiff.Tool

/-!
# Word-diff pages

The page shows the tool's output as HTML: the text is escaped first, and then
each mark of the tool becomes a tag.  Escaping leaves no `<` and no `>`, so the
tags are the only markup.
-/

namespace Baseline.WordDiff

/-- A character as HTML text. -/
def escapeChar : Char → List Char
  | '&' => "&amp;".toList
  | '<' => "&lt;".toList
  | '>' => "&gt;".toList
  | c => [c]

/-- Characters as HTML text. -/
def escapeChars (s : List Char) : List Char := s.flatMap escapeChar

/-- A text as HTML text. -/
def escape (s : String) : String := String.ofList (escapeChars s.toList)

/-- A text with every occurrence of `old` replaced, from the left. -/
def replaceAll (old new : List Char) : List Char → List Char
  | [] => []
  | c :: rest =>
    if old.isPrefixOf (c :: rest) then new ++ replaceAll old new (rest.drop (old.length - 1))
    else c :: replaceAll old new rest
termination_by s => s.length
decreasing_by all_goals simp; try omega

/-- The tag that opens a deletion. -/
def deleteTag : String := "<span class=del>"

/-- The tag that opens an insertion. -/
def insertTag : String := "<span class=add>"

/-- The tag that closes either. -/
def closeTag : String := "</span>"

/-- The marks of an escaped text turned into tags. -/
def tagMarks (s : List Char) : List Char :=
  replaceAll endMark.toList closeTag.toList
    (replaceAll insertMark.toList insertTag.toList
      (replaceAll deleteMark.toList deleteTag.toList s))

/-- The content of a word-diff artifact. -/
inductive Page
  /-- The tool's output. -/
  | rendered (text : String)
  /-- The tool is not there in this run. -/
  | notInstalled
  /-- The tool could not be started for this artifact. -/
  | concurrentFailure
deriving DecidableEq

namespace Page

/-- The page of a tool's output. -/
def ofOutput (output : Bytes) : Page := .rendered (Utf8.decodeLossy output)

/-- The head of a rendered page, which colours the two kinds of change. -/
def styleHead : String :=
  "<head><style>.del \x7b background: #faa; \x7d .add \x7b background: #afa; \x7d</style></head>"

/-- The page as HTML. -/
def html : Page → String
  | .notInstalled =>
    "wdiff not installed.<br/> On macOS, you can install it via Homebrew or MacPorts.<br/>" ++
      "On Debian or Ubuntu, you can run 'sudo apt-get install wdiff'."
  | .concurrentFailure =>
    "wdiff failed, most likely due to many comparisons running in parallel."
  | .rendered text =>
    styleHead ++ "<pre>" ++ String.ofList (tagMarks (escapeChars text.toList)) ++ "</pre>"

end Page

end Baseline.WordDiff
