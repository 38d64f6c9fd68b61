import Assay.CommandLine.Setting
import Assay.Smoke.Run

/-!
# The footprint of a command

A command looks at few files, and all of them can be told before it runs: its lists, which name its
tests, and then what the tests and the settings name. So a machine in memory can be given what a
command needs, and nothing else.

A program named without a directory is looked for along the search path.
-/

namespace Assay.CommandLine.Command

/-- The tests of a command are chosen by this selection. -/
def selection : Command → Selection
  | golden selection _ => selection
  | smoke selection _ => selection

/-- The paths to which a launch of a program may lead. -/
def launchPaths (searchPath : List Path) (program : Path) : List Path :=
  if program.text.toList.contains '/' then [program] else searchPath.map (·.join program)

/-- The directory in which a path lies, written with a `/` at its end. It is the empty path for a
path without a directory. -/
def directoryOf (path : Path) : Path :=
  ⟨String.ofList (path.text.toList.reverse.dropWhile (· != '/')).reverse⟩

/-- The paths at which a command may look, once its tests are known. Arguments of the compiler count
too: they may name files. So does the directory into which the compiler writes. -/
def footprint (searchPath : List Path) (environmentCompiler : Option String) (tests : List Test) :
    Command → List Path
  | golden _ options =>
    let config := options.config environmentCompiler
    launchPaths searchPath config.compiler ++ launchPaths searchPath config.artifact.anchored ++
      directoryOf config.artifact :: config.compilerArgs.map Path.mk ++
      tests.flatMap fun test => [test.source, test.fixture]
  | smoke _ dir =>
    tests.flatMap fun test => launchPaths searchPath (Smoke.executable ⟨dir⟩ test)

end Assay.CommandLine.Command
