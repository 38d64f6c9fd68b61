import Assay.Path

/-!
# Configuration of golden runs

A configuration names the compiler, the arguments that stand before the source, the flag that
announces the artifact, and the artifact, which all tests of a run share. It is built from the
defaults by steps, and the last step on a field wins; compiler arguments add up.

The environment may name a compiler. It takes effect only where the name is not empty
(`Step.compilerOverride`), and before all other steps, so that a compiler given by a step wins.
-/

namespace Assay.Golden

/-- The environment variable that names the compiler. -/
def compilerVariable : String := "GOLDEN_HARNESS_CC"

/-- What a golden run needs to know. -/
structure Config where
  compiler : Path
  /-- Arguments before the source. -/
  compilerArgs : List String
  /-- The flag that announces the artifact. -/
  outputFlag : String
  /-- What every test is built into and then run from. -/
  artifact : Path
deriving DecidableEq, Repr

/-- One change of a configuration. -/
inductive Step where
  | compiler (path : Path)
  /-- A compiler to use if it is present and not empty. -/
  | compilerOverride (name : Option String)
  | compilerArg (argument : String)
  | outputFlag (flag : String)
  | artifact (path : Path)
deriving DecidableEq, Repr

namespace Config

/-- The defaults. -/
def default : Config where
  compiler := ⟨"scc"⟩
  compilerArgs := []
  outputFlag := "-o"
  artifact := ⟨"./main"⟩

/-- The configuration after a step. -/
def apply (c : Config) : Step → Config
  | .compiler path => { c with compiler := path }
  | .compilerOverride none => c
  | .compilerOverride (some name) => if name = "" then c else { c with compiler := ⟨name⟩ }
  | .compilerArg argument => { c with compilerArgs := c.compilerArgs ++ [argument] }
  | .outputFlag flag => { c with outputFlag := flag }
  | .artifact path => { c with artifact := path }

/-- The configuration after a sequence of steps. -/
def applyAll (c : Config) (steps : List Step) : Config := steps.foldl apply c

/-- The defaults with the compiler that the environment names, if it names one. -/
def ofEnvironment (compiler : Option String) : Config :=
  default.apply (.compilerOverride compiler)

/-- The arguments for compiling a source: those that stand first, the source, the flag, the
artifact. -/
def buildArgs (c : Config) (source : Path) : List String :=
  c.compilerArgs ++ [source.text, c.outputFlag, c.artifact.text]

end Config

end Assay.Golden
