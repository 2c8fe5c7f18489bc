/-!
# Commands of a script

A script is a list of commands.  A command is made of words, and a word of pieces:
text, and what is put in its place when the command is run — the value of a
parameter, what other commands write, or a number.  Quotes keep the pieces of a
word together and their characters from meaning more than themselves.

Characters stand for the bytes of their codes.
-/

namespace Baseline.Script

/-- What stands in for a parameter. -/
inductive Fallback
  /-- The word, when there is no value. -/
  | given
  /-- The word, when there is no value, which becomes the value. -/
  | assigned
  /-- The word, when there is a value. -/
  | replaced
  /-- Nothing: the script ends when there is no value. -/
  | refused
deriving DecidableEq

/-- What a redirection does with a descriptor. -/
inductive Redirection
  /-- Read from a file. -/
  | input
  /-- Write to a file, which is emptied. -/
  | output
  /-- Write at the end of a file. -/
  | append
  /-- Read from a file and write to it. -/
  | both
  /-- Lead where another descriptor leads. -/
  | duplicate
  /-- Read the text itself. -/
  | document
deriving DecidableEq

mutual

/-- A part of a word. -/
inductive Piece
  | text (s : List Char) (quoted : Bool)
  | parameter (name : List Char) (use : Use) (quoted : Bool)
  /-- What commands write. -/
  | output (body : List Command) (quoted : Bool)
  /-- The value of an expression. -/
  | number (expression : List Piece) (quoted : Bool)

/-- What of a parameter is used. -/
inductive Use
  | value
  /-- How many characters the value has. -/
  | length
  /-- A word may stand in; an empty value counts as none when `orEmpty`. -/
  | fallback (rule : Fallback) (orEmpty : Bool) (word : List Piece)
  /-- The value without what a pattern fits at its front or at its end. -/
  | without (front : Bool) (longest : Bool) (pattern : List Piece)
  /-- The parameter is used in a way that means nothing. -/
  | senseless

/-- Where a descriptor leads while a command runs. -/
inductive Redirect
  | mk (descriptor : Nat) (kind : Redirection) (target : List Piece)

/-- A command. -/
inductive Command
  | simple (assignments : List (List Char × List Piece)) (words : List (List Piece))
      (redirects : List Redirect)
  /-- Run commands with redirections. -/
  | redirected (body : List Command) (redirects : List Redirect)
  /-- Run the second command when the first goes well. -/
  | andThen (first second : Command)
  /-- Run the second command when the first goes badly. -/
  | orElse (first second : Command)
  | negated (body : Command)
  /-- Each command reads what the one before it writes. -/
  | pipe (stages : List Command)
  | background (body : Command)
  /-- Run commands so that only files change. -/
  | apart (body : List Command)
  | branch (condition yes no : List Command)
  /-- Run the body as long as the condition goes well, or badly. -/
  | loop (whileSuccess : Bool) (condition body : List Command)
  /-- Run the body for each word; for each argument when there are no words. -/
  | each (name : List Char) (words : Option (List (List Piece))) (body : List Command)
  /-- Run the first body with a pattern that the word fits. -/
  | choice (subject : List Piece) (arms : List (List (List Piece) × List Command))
  | function (name : List Char) (body : Command)

end

/-- A word before anything is put in place of its pieces. -/
abbrev Word := List Piece

/-- Whether a character may stand in a name. -/
def isNameChar (c : Char) : Bool := c.isAlphanum || c == '_'

/-- Whether characters are a name. -/
def isName : List Char → Bool
  | [] => false
  | c :: rest => isNameChar c && !c.isDigit && rest.all isNameChar

/-- Commands whose faults end the script, and whose assignments stay. -/
def specialNames : List String := [
  ":", ".", "break", "continue", "eval", "exec", "exit", "export", "readonly", "return", "set",
  "shift", "times", "trap", "unset"]

/-- Whether a command is one whose faults end the script. -/
def isSpecial (name : List Char) : Bool := specialNames.any fun s => s.toList == name

/-- The text of a word that is text without quotes. -/
def plainText? : Word → Option (List Char)
  | [] => some []
  | .text s false :: rest => (plainText? rest).map (s ++ ·)
  | _ => none

/-- Whether quotes stand in a word. -/
def hasQuotes (w : Word) : Bool := w.any fun
  | .text _ quoted => quoted
  | _ => false

/-- The text of a word with nothing put in place of other pieces. -/
def literalText (w : Word) : List Char := w.flatMap fun
  | .text s _ => s
  | .parameter name _ _ => '$' :: name
  | _ => []

end Baseline.Script
