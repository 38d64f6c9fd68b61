import Assay.Golden.Config
import Assay.Selection

/-!
# Commands and their settings

There are two commands. Each takes tests and settings, and a setting has a value: some may be given
again and again, the others once. The value of a *free* setting may be any text whatever, the empty
one and one that looks like a setting included; a path must not be empty and, where it stands as a
word of its own, must not start with a hyphen.

`Command` is a command line understood; `Command.ofValues` puts one together from the tests and the
values in the order in which they were given.
-/

namespace Assay.CommandLine

/-- The commands. -/
inductive Mode where
  | golden
  | smoke
deriving DecidableEq, Repr

/-- The settings of all commands. -/
inductive Setting where
  | list
  | compiler
  | compilerArg
  | outputFlag
  | artifact
  | dir
deriving DecidableEq, Repr

namespace Setting

/-- The name after two hyphens. -/
def longName : Setting → String
  | list => "list"
  | compiler => "cc"
  | compilerArg => "cc-arg"
  | outputFlag => "output-flag"
  | artifact => "artifact"
  | dir => "dir"

/-- The letter after one hyphen, if there is one. -/
def shortName : Setting → Option Char
  | list => some 'l'
  | _ => none

/-- What the value is called. -/
def valueName : Setting → String
  | list => "FILE"
  | compiler => "PROGRAM"
  | compilerArg => "ARG"
  | outputFlag => "FLAG"
  | artifact => "PATH"
  | dir => "DIR"

/-- What the setting is for. -/
def about : Setting → String
  | list => "File listing one test per line ('#' comments); may be repeated"
  | compiler => "Compiler executable [env: GOLDEN_HARNESS_CC] [default: scc]"
  | compilerArg => "Extra argument passed to the compiler before the source file; may be repeated"
  | outputFlag => "Compiler flag that introduces the output path"
  | artifact => "Path the compiler writes the test program to"
  | dir => "Directory containing the test executables"

/-- The value of a setting that is not given. -/
def default? : Setting → Option String
  | outputFlag => some "-o"
  | artifact => some "./main"
  | dir => some "."
  | _ => none

/-- Whether the setting may be given more than once. -/
def isRepeatable : Setting → Bool
  | list | compilerArg => true
  | _ => false

/-- Whether any text may be the value. The values of the other settings are paths. -/
def isFree : Setting → Bool
  | compilerArg | outputFlag => true
  | _ => false

/-- The setting as messages show it. -/
def usage (o : Setting) : String := "--" ++ o.longName ++ " <" ++ o.valueName ++ ">"

end Setting

namespace Mode

/-- The word that chooses a command. -/
def name : Mode → String
  | golden => "golden"
  | smoke => "smoke"

/-- What a command does. -/
def about : Mode → String
  | golden => "Build each test with the compiler and compare its output to <TEST>.expected"
  | smoke => "Run pre-built test executables and print their exit code and stdout"

/-- The settings of a command, as its help lists them. -/
def settings : Mode → List Setting
  | golden => [.list, .compiler, .compilerArg, .outputFlag, .artifact]
  | smoke => [.list, .dir]

/-- The command that a word chooses. -/
def ofName? (word : String) : Option Mode := [golden, smoke].find? (·.name == word)

/-- The setting of a command with a long name. -/
def byLongName? (m : Mode) (name : String) : Option Setting :=
  m.settings.find? (·.longName == name)

/-- The setting of a command with a short name. -/
def byShortName? (m : Mode) (letter : Char) : Option Setting :=
  m.settings.find? (·.shortName == some letter)

end Mode

/-- What a golden command sets. -/
structure GoldenOptions where
  /-- The compiler, if it is given. -/
  compiler : Option Path
  compilerArgs : List String
  outputFlag : String
  artifact : Path
deriving DecidableEq, Repr

namespace GoldenOptions

/-- The configuration of the command: the defaults, the compiler of the environment, then what the
command sets. A compiler that the command names wins. -/
def config (o : GoldenOptions) (environmentCompiler : Option String) : Golden.Config :=
  (Golden.Config.ofEnvironment environmentCompiler).applyAll
    ([.outputFlag o.outputFlag, .artifact o.artifact] ++
      o.compiler.toList.map .compiler ++ o.compilerArgs.map .compilerArg)

end GoldenOptions

/-- A command line understood. -/
inductive Command where
  | golden (selection : Selection) (options : GoldenOptions)
  | smoke (selection : Selection) (dir : Path)
deriving DecidableEq, Repr

/-- The values given for a setting, in order. -/
def valuesOf (o : Setting) (values : List (Setting × String)) : List String :=
  values.filterMap fun (given, value) => if given = o then some value else none

/-- The value of a setting that may be given once: the one given, or the default. -/
def valueOf (o : Setting) (values : List (Setting × String)) : String :=
  ((valuesOf o values).head? <|> o.default?).getD ""

/-- The command for the tests and values given. -/
def Command.ofValues (m : Mode) (tests : List String) (values : List (Setting × String)) :
    Command :=
  let selection : Selection := ⟨tests, (valuesOf .list values).map Path.mk⟩
  match m with
  | .golden =>
    .golden selection
      { compiler := (valuesOf .compiler values).head?.map Path.mk
        compilerArgs := valuesOf .compilerArg values
        outputFlag := valueOf .outputFlag values
        artifact := ⟨valueOf .artifact values⟩ }
  | .smoke => .smoke selection ⟨valueOf .dir values⟩

end Assay.CommandLine
