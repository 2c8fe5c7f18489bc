import Baseline.Toml.Source

/-!
# Flaws

What can be wrong with how a document is written: the form of its lines, arrays and
tables, the words in it, and what the words together say.  A `Flaw` is a cause with its place;
`Flaw.message` says what is wrong and what would have been right.
-/

namespace Baseline.Toml

/-- How a word is quoted. -/
inductive Quoting
  | bare
  | basic
  | literal
  | basicLines
  | literalLines
deriving DecidableEq

namespace Quoting

/-- The name of a string that is quoted so. -/
def name : Quoting → String
  | .bare => "string"
  | .basic => "basic string"
  | .literal => "literal string"
  | .basicLines => "multi-line basic string"
  | .literalLines => "multi-line literal string"

/-- The quotes on each side. -/
def quotes : Quoting → List Char
  | .bare => []
  | .basic => ['"']
  | .literal => ['\'']
  | .basicLines => ['"', '"', '"']
  | .literalLines => ['\'', '\'', '\'']

/-- Whether a backslash starts an escape. -/
def hasEscapes (q : Quoting) : Bool := q = .basic || q = .basicLines

/-- Whether line ends may stand in it. -/
def hasLines (q : Quoting) : Bool := q = .basicLines || q = .literalLines

end Quoting

/-- The base that a whole number is written in. -/
inductive Base
  | binary
  | octal
  | decimal
  | hexadecimal
deriving DecidableEq

namespace Base

/-- How many digits there are. -/
def size : Base → Nat
  | .binary => 2
  | .octal => 8
  | .decimal => 10
  | .hexadecimal => 16

/-- The name of the numbers. -/
def name : Base → String
  | .binary => "binary"
  | .octal => "octal"
  | .decimal => "integer"
  | .hexadecimal => "hexadecimal"

/-- The letter after the zero in front. -/
def letter : Base → Char
  | .binary => 'b'
  | .octal => 'o'
  | .decimal => 'd'
  | .hexadecimal => 'x'

end Base

/-- What comes next between the braces of an inline table. -/
inductive Turn
  | key
  | assignment
  | value
  | comma
deriving DecidableEq

/-- What would have been right: characters, or something of a kind. -/
inductive Expected
  | literal (text : String)
  | kind (name : String)
deriving DecidableEq

/-- A choice with nothing in it: whatever is there should not be. -/
def Expected.nothing : List Expected := []

namespace Expected

/-- The wording of one possibility. -/
def text : Expected → String
  | .literal "\n" => "newline"
  | .literal s => "`" ++ s ++ "`"
  | .kind name => name

/-- The wording of a choice. -/
def choice : List Expected → String
  | [] => "nothing"
  | es => String.intercalate ", " (es.map text)

end Expected

/-- What comes next, as it is expected. -/
def Turn.expected : Turn → List Expected
  | .key => [.kind "key"]
  | .assignment => [.literal "="]
  | .value => [.kind "value"]
  | .comma => [.literal ","]

/-- What is wrong with how a document is written. -/
inductive Cause
  /-- A return without its line end. -/
  | loneReturn
  | commentCharacter
  /-- Something stands behind a line that is complete. -/
  | afterExpression
  | unopenedHeader
  | unclosedHeader
  /-- The brackets that are missing are given. -/
  | unclosedArrayHeader (missing : String)
  | noKey
  | keyWithoutValue
  /-- A key that starts with a dot has no value. -/
  | dottedKeyWithoutValue
  | secondAssignment
  | unopenedBrace
  | unopenedBracket
  | tooDeep
  | unclosedArray
  | emptyElement
  | assignmentInArray
  | elementsNotSeparated
  | unclosedBraces
  | emptyEntry (turn : Turn)
  | assignmentInBraces (turn : Turn)
  | entryWithoutKey (turn : Turn)
  | closingBracketInBraces (turn : Turn)
  | entryWithoutAssignment
  | entriesNotSeparated
  /-- A word without its quotes. -/
  | unfinishedString (quoting : Quoting)
  | stringCharacter (quoting : Quoting)
  | escapeLetter
  | escapeDigits
  | escapeValue
  /-- A backslash with blanks after it, but no line end. -/
  | escapedBlank
  | emptyKey
  | keyCharacter
  | keyOverLines (quoting : Quoting)
  | openingQuotes (quotes : String)
  | unquoted
  /-- A word that begins like one that stands for a value. -/
  | misspelt (kind symbol : String)
  | secondSign
  | signedBase
  | capitalBase (base : Base)
  | decimalMark
  | signAfterBase
  | baseDigit (base : Base)
  | leadingZero
  | noDigits (part : String)
  | afterFloat
  | underscore
  /-- A date or time whose part is wrong. -/
  | moment (part expected : Option String)
  | tooManySegments
  | repeatedKey
  /-- A key goes on below a value that is no table. -/
  | notExtensible (kind : String)
deriving DecidableEq

namespace Cause

/-- What is wrong. -/
def description : Cause → String
  | .loneReturn => "carriage return must be followed by newline"
  | .commentCharacter => "invalid comment character"
  | .afterExpression => "unexpected key or value"
  | .unopenedHeader => "missing table open"
  | .unclosedHeader => "unclosed table"
  | .unclosedArrayHeader _ => "unclosed array table"
  | .noKey => "invalid key-value pair"
  | .keyWithoutValue => "key with no value"
  | .dottedKeyWithoutValue => "missing value for key"
  | .secondAssignment => "extra `=`"
  | .unopenedBrace => "missing inline table opening"
  | .unopenedBracket => "missing array opening"
  | .tooDeep => "cannot recurse further; max recursion depth met"
  | .unclosedArray => "unclosed array"
  | .emptyElement => "extra comma in array"
  | .assignmentInArray => "unexpected `=` in array"
  | .elementsNotSeparated => "missing comma between array elements"
  | .unclosedBraces => "unclosed inline table"
  | .emptyEntry _ => "extra comma in inline table"
  | .assignmentInBraces _ => "extra assignment between key-value pairs"
  | .entryWithoutKey _ => "missing key for inline table element"
  | .closingBracketInBraces _ => "invalid inline table element"
  | .entryWithoutAssignment => "missing assignment between key-value pairs"
  | .entriesNotSeparated => "missing comma between key-value pairs"
  | .unfinishedString q | .stringCharacter q => "invalid " ++ q.name
  | .escapeLetter => "missing escaped value"
  | .escapeDigits => "too few unicode value digits"
  | .escapeValue => "invalid value"
  | .escapedBlank => "invalid multi-line basic string"
  | .emptyKey => "unquoted keys cannot be empty"
  | .keyCharacter => "invalid unquoted key"
  | .keyOverLines q => "keys cannot be " ++ q.name ++ "s"
  | .openingQuotes _ => "missing opening quote"
  | .unquoted => "string values must be quoted"
  | .misspelt kind _ => "invalid " ++ kind
  | .secondSign => "redundant numeric sign"
  | .signedBase => "integers with a radix cannot be signed"
  | .capitalBase _ => "radix must be lowercase"
  | .decimalMark => "redundant integer number prefix"
  | .signAfterBase => "unexpected sign"
  | .baseDigit b => "invalid " ++ b.name ++ " number"
  | .leadingZero => "unexpected leading zero"
  | .noDigits part => "invalid " ++ part
  | .afterFloat => "invalid float"
  | .underscore => "`_` may only go between digits"
  | .moment part _ => "invalid " ++ part.getD "datetime"
  | .tooManySegments => "recursion limit"
  | .repeatedKey => "duplicate key"
  | .notExtensible kind => "cannot extend value of type " ++ kind ++ " with a dotted key"

/-- What would have been right, where there is something to say. -/
def expected : Cause → Option (List Expected)
  | .loneReturn | .escapedBlank => some [.literal "\n"]
  | .commentCharacter => some [.kind "printable characters"]
  | .afterExpression => some [.literal "\n", .literal "#"]
  | .unopenedHeader | .unopenedBracket => some [.literal "["]
  | .unclosedHeader | .unclosedArray => some [.literal "]"]
  | .unclosedArrayHeader missing => some [.literal missing]
  | .noKey => some [.kind "key"]
  | .keyWithoutValue | .dottedKeyWithoutValue | .entryWithoutAssignment => some [.literal "="]
  | .unopenedBrace => some [.literal "\x7b"]
  | .unclosedBraces => some [.literal "\x7d"]
  | .emptyElement => some [.kind "value"]
  | .assignmentInArray => some [.kind "value", .literal "]"]
  | .elementsNotSeparated | .entriesNotSeparated => some [.literal ","]
  | .emptyEntry turn | .assignmentInBraces turn | .entryWithoutKey turn
  | .closingBracketInBraces turn => some turn.expected
  | .unfinishedString q => some [.literal (String.ofList (q.quotes.take 1))]
  | .stringCharacter .basic =>
    some [.kind "non-double-quote visible characters", .literal "\\"]
  | .stringCharacter .literal => some [.kind "non-single-quote visible characters"]
  | .stringCharacter .basicLines =>
    some [.kind "printable characters", .literal "\"", .literal "\n", .literal "\\"]
  | .stringCharacter _ => some [.kind "non-single-quote characters"]
  | .escapeLetter => some (["b", "e", "f", "n", "r", "\\", "\"", "x", "u", "U"].map .literal)
  | .escapeDigits | .escapeValue => some [.kind "unicode hexadecimal value"]
  | .emptyKey | .keyCharacter =>
    some [.kind "letters", .kind "numbers", .literal "-", .literal "_"]
  | .keyOverLines _ => some [.kind "basic string", .kind "literal string"]
  | .openingQuotes quotes => some [.literal quotes]
  | .unquoted => some [.kind "literal string"]
  | .misspelt _ symbol => some [.literal symbol]
  | .capitalBase b => some [.literal (String.ofList ['0', b.letter])]
  | .noDigits _ => some [.kind "digits"]
  | .secondAssignment | .secondSign | .signedBase | .decimalMark | .signAfterBase
  | .leadingZero | .afterFloat | .underscore => some Expected.nothing
  | .moment _ expected => expected.map fun e => [.kind e]
  | .baseDigit _ | .tooDeep | .tooManySegments | .repeatedKey | .notExtensible _ => none

/-- The wording of a cause. -/
def message (c : Cause) : String :=
  match c.expected with
  | some es => c.description ++ ", expected " ++ Expected.choice es
  | none => c.description

end Cause

/-- What is wrong with how a document is written, and where. -/
structure Flaw where
  cause : Cause
  place : Span
deriving DecidableEq

/-- The wording of a flaw: where it is in the document, and what. -/
def Flaw.message (source : List Char) (f : Flaw) : String :=
  Excerpt.render source f.place ++ f.cause.message ++ "\n"

end Baseline.Toml
