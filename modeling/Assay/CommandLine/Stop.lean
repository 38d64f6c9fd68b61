import Assay.CommandLine.Help
import Assay.CommandLine.Likeness
import Assay.Text.Visible

/-!
# Why no command is run

A command line may ask for help or for the version, or it may hold a mistake. What is printed of a
mistake begins with a line that names it; a tip may follow that says what was perhaps meant, and
then a line on the usage and one on the help. Words of the command line are quoted in color where
the terminal knows colors; elsewhere the colors are left out, and with them every escape sequence
that a quoted word holds or leaves open.
-/

namespace Assay.CommandLine

/-- What is wrong with a command line. -/
inductive Mistake where
  /-- A word is no command. -/
  | unknownCommand (word : String)
  /-- A word is no setting, or stands where nothing may stand. -/
  | unknownArgument (word : String)
  /-- A setting has no value, or an empty one where it must not be. -/
  | missingValue (setting : Setting)
  /-- A setting was given twice. -/
  | repeated (setting : Setting)
  /-- A flag was given a value. -/
  | unwantedValue (flag value : String)
deriving DecidableEq, Repr

/-- What was perhaps meant. -/
inductive Tip where
  /-- The word is to be a test. -/
  | asValue (word : String)
  /-- The flag is a flag of a command. -/
  | ofCommand (command flag : String)
  /-- Another flag. -/
  | similarArgument (flag : String)
  /-- Other commands. -/
  | similarCommands (commands : List String)
  /-- The word is to be a command. -/
  | withoutEscape (word : String)
deriving DecidableEq, Repr

/-- Why no command is run. -/
inductive Stop where
  /-- Help was asked for. -/
  | help (topic : Topic)
  /-- The version was asked for. -/
  | version
  /-- There is no command. -/
  | noCommand
  /-- There is a mistake in what was said to the program or to a command. -/
  | mistake (place : Topic) (mistake : Mistake) (tip : Option Tip)
deriving DecidableEq, Repr

/-- A word in quotes, colored. The color ends after the word. -/
def quoted (word : String) : String := "'\x1b[33m" ++ word ++ "\x1b[0m'"

namespace Mistake

/-- What is said of a mistake. -/
def text : Mistake → String
  | unknownCommand word => "unrecognized subcommand " ++ quoted word
  | unknownArgument word => "unexpected argument " ++ quoted word ++ " found"
  | missingValue o => "a value is required for " ++ quoted o.usage ++ " but none was supplied"
  | repeated o => "the argument " ++ quoted o.usage ++ " cannot be used multiple times"
  | unwantedValue flag value =>
    "unexpected value " ++ quoted value ++ " for " ++ quoted flag ++
      " found; no more were expected"

/-- Whether the usage is shown. A missing value tells it already. -/
def showsUsage : Mistake → Bool
  | missingValue _ => false
  | _ => true

end Mistake

/-- What a tip says. -/
def Tip.text : Tip → String
  | asValue word => "to pass " ++ quoted word ++ " as a value, use " ++ quoted ("-- " ++ word)
  | ofCommand command flag => quoted (command ++ " " ++ flag) ++ " exists"
  | similarArgument flag => "a similar argument exists: " ++ quoted flag
  | similarCommands [command] => "a similar subcommand exists: " ++ quoted command
  | similarCommands commands =>
    "some similar subcommands exist: " ++ ", ".intercalate (commands.map quoted)
  | withoutEscape word =>
    "subcommand " ++ quoted word ++ " exists; to use it, remove the " ++ quoted "--" ++ " before it"

/-- A text without what a terminal obeys and does not show. -/
def plain (s : String) : String := String.ofList (Text.visible s.toList)

/-- The first line of a text. -/
def firstLine (s : String) : String :=
  match Text.split '\n' s.toList with
  | [] | [_] => s
  | line :: _ => String.ofList (if line.getLast? = some '\r' then line.dropLast else line)

namespace Stop

/-- Whether the text was asked for, so that it is a result and no error. -/
def isAnswer : Stop → Bool
  | help _ | version => true
  | _ => false

/-- The exit code. -/
def exitCode (e : Stop) : Int := if e.isAnswer then 0 else 2

/-- All that is printed. -/
def text : Stop → String
  | help topic => topic.text
  | version => versionText
  | noCommand => Topic.program.text
  | mistake place what tip =>
    let tipText := match tip with
      | some tip => "\n\n  tip: " ++ tip.text
      | none => ""
    let usageText := if what.showsUsage then "\n\n" ++ usageLine place.usage else ""
    plain ("error: " ++ what.text ++ tipText ++ usageText ++
      "\n\nFor more information, try '--help'.\n")

/-- What stands for the printed text: the whole text of an answer, the first line of an error. -/
def message (e : Stop) : String := if e.isAnswer then e.text else firstLine e.text

end Stop

end Assay.CommandLine
