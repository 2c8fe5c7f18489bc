import Baseline.CommandLine.Help
import Baseline.Text.Plain

/-!
# Stops

Why a command line is not carried out, and what is said then.  A complaint quotes
what was given in bold; since what was given may steer a terminal too, the whole is
shown as plain text.
-/

namespace Baseline.CommandLine

/-- Why a command line is not carried out. -/
inductive Stop
  /-- It asks for help. -/
  | help (about : Topic) (detail : Detail)
  /-- It asks for the version. -/
  | version
  /-- There is nothing on it. -/
  | nothing
  | noCommand
  | unknownCommand (given : String)
  | missingArguments
  | unexpected (given : String)
  | unexpectedValue (given : String) (a : Argument)
  | missingValue (a : Argument)
  | invalidValue (given : String) (a : Argument) (reason : Option String)
  | repeated (a : Argument)
  | notText
deriving DecidableEq

/-- The version of the program. -/
def programVersion : String := "0.1.0"

/-- A quotation in bold. -/
def quoted (s : String) : String := "'" ++ Text.bold s ++ "'"

/-- Where a complaint sends its reader. -/
def hint : String := "\n\nFor more information, try " ++ quoted "--help" ++ "."

namespace Stop

/-- What is complained about. -/
def complaint : Stop → String
  | .help .. | .version | .nothing => ""
  | .noCommand => quoted programName ++ " requires a subcommand but one was not provided"
  | .unknownCommand given => "unrecognized subcommand " ++ quoted given
  | .missingArguments => "the following required arguments were not provided:"
  | .unexpected given => "unexpected argument " ++ quoted given ++ " found"
  | .unexpectedValue given a =>
    "unexpected value " ++ quoted given ++ " for " ++ quoted a.shown ++
      " found; no more were expected"
  | .missingValue a => "a value is required for " ++ quoted a.shown ++ " but none was supplied"
  | .invalidValue given a reason =>
    "invalid value " ++ quoted given ++ " for " ++ quoted a.shown ++
      (match reason with
        | some r => ": " ++ r
        | none => "")
  | .repeated a => "the argument " ++ quoted a.shown ++ " cannot be used multiple times"
  | .notText => "invalid UTF-8 was detected in one or more arguments"

/-- What is said of a command line that is not carried out. -/
def message (s : Stop) : String :=
  match s with
  | .help about detail => about.helpText detail
  | .nothing => Topic.helpText .program .brief
  | .version => programName ++ " " ++ programVersion
  | s => Text.plain ("error: " ++ s.complaint ++ hint)

end Stop

end Baseline.CommandLine
