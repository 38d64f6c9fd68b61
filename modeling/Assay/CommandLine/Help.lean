import Assay.CommandLine.Setting

/-!
# Help

The help of the program and of each command, laid out from the same descriptions by which a command
line is read. The entries of a section stand in two columns.
-/

namespace Assay.CommandLine

/-- The program's name. -/
def programName : String := "golden-harness"

/-- The program's version. -/
def version : String := "0.1.0"

/-- What the program does. -/
def about : String := "Run compiled test programs and check what they print"

/-- What a help text is about. -/
inductive Topic where
  /-- The whole program. -/
  | program
  /-- One command. -/
  | command (mode : Mode)
  /-- The command that gives help. -/
  | help
deriving DecidableEq, Repr

/-- The entries of a section: the left column is as wide as its widest entry. -/
def columnsOfEntries (entries : List (String × String)) : String :=
  let width := (entries.map fun (left, _) => left.length).foldl max 0
  String.join (entries.map fun (left, right) =>
    "  " ++ left ++ String.ofList (List.replicate (width - left.length) ' ') ++ "  " ++ right ++
      "\n")

/-- A section of a help text. -/
def listing (title : String) (entries : List (String × String)) : String :=
  "\n" ++ title ++ ":\n" ++ columnsOfEntries entries

/-- The entry of a setting. A setting without a letter leaves the letter's place empty. -/
def Setting.entry (o : Setting) : String × String :=
  let letter := match o.shortName with
    | some c => "-" ++ String.ofList [c] ++ ", "
    | none => "    "
  let default := match o.default? with
    | some value => " [default: " ++ value ++ "]"
    | none => ""
  (letter ++ o.usage, o.about ++ default)

/-- The name of the flag, and of the command, that gives help. -/
def helpName : String := "help"

/-- The name of the flag that tells the version. -/
def versionName : String := "version"

/-- The names after two hyphens that a command knows. -/
def Mode.longNames (m : Mode) : List String := m.settings.map Setting.longName ++ [helpName]

/-- The words that choose a command. -/
def commandNames : List String := [Mode.golden.name, Mode.smoke.name, helpName]

/-- The entry of the help flag. -/
def helpEntry : String × String := ("-h, --help", "Print help")

/-- The entry of a command. -/
def Mode.entry (m : Mode) : String × String := (m.name, m.about)

/-- What the command that gives help does. -/
def helpAbout : String := "Print this message or the help of the given subcommand(s)"

/-- What a topic is used for. -/
def Topic.about : Topic → String
  | program => CommandLine.about
  | command m => m.about
  | help => helpAbout

/-- What may follow the program's name. -/
def Topic.usage : Topic → String
  | program => "<COMMAND>"
  | command m => m.name ++ " [OPTIONS] [TEST]..."
  | help => "help [COMMAND]..."

/-- The line that tells how the program is used. -/
def usageLine (usage : String) : String := "Usage: " ++ programName ++ " " ++ usage

/-- The sections of a help text. -/
def Topic.sections : Topic → String
  | program =>
    listing "Commands" [Mode.golden.entry, Mode.smoke.entry, ("help", helpAbout)] ++
      listing "Options" [helpEntry, ("-V, --version", "Print version")]
  | command m =>
    listing "Arguments" [("[TEST]...", "Test identifiers, in run order")] ++
      listing "Options" (m.settings.map Setting.entry ++ [helpEntry])
  | help => listing "Arguments" [("[COMMAND]...", "Print help for the subcommand(s)")]

/-- The text of a topic. -/
def Topic.text (topic : Topic) : String :=
  topic.about ++ "\n\n" ++ usageLine topic.usage ++ "\n" ++ topic.sections

/-- The line that tells the version. -/
def versionText : String := programName ++ " " ++ version ++ "\n"

end Assay.CommandLine
