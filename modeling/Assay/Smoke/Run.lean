import Assay.RunError
import Assay.Session

/-!
# Smoke runs

For every test, in order: launch its executable without arguments and report the outcome. No launch
ends the run; only a report that cannot be written does.

`observe` is one test without its report, `run` a whole list.
-/

namespace Assay.Smoke

variable {σ : Type}

/-- What a smoke run needs to know: the directory of the executables. -/
structure Config where
  dir : Path
deriving DecidableEq, Repr

namespace Config

/-- The executables are in the working directory. -/
def default : Config := ⟨⟨"."⟩⟩

/-- The configuration with another directory. -/
def withDir (_ : Config) (dir : Path) : Config := ⟨dir⟩

end Config

/-- The program that is launched for a test. -/
def executable (config : Config) (test : Test) : Path := (test.executableIn config.dir).anchored

/-- The event that tells of an outcome. -/
def event (executable : Path) : Outcome → Event
  | .completed code _ => .smokeCompleted code
  | .launchFailure detail => .smokeNotLaunched executable detail
  | .notFound => .smokeMissing executable

/-- Launches one test. -/
def observe (host : Host σ) (config : Config) (test : Test) (s : Session σ) :
    Outcome × Session σ :=
  let program := executable config test
  let (result, s) := s.launch host [.smokeTest test] ⟨program, []⟩
  let outcome := Outcome.ofLaunch result
  (outcome, s.tell [.smokeTest test] (event program outcome))

/-- Launches tests in order and reports each outcome, up to the first report that fails. -/
def run (host : Host σ) (config : Config) :
    List Test → Session σ → Except RunError (List Outcome) × Session σ
  | [], s => (.ok [], s)
  | test :: tests, s =>
    let (outcome, s) := observe host config test s
    match s.reportOutcome outcome with
    | (.error cause, s) => (.error (.report cause), s)
    | (.ok (), s) =>
      match run host config tests s with
      | (.error e, s) => (.error e, s)
      | (.ok outcomes, s) => (.ok (outcome :: outcomes), s)

/-- Launches every test in order, reporting nothing. -/
def observeEach (host : Host σ) (config : Config) :
    List Test → Session σ → List Outcome × Session σ
  | [], s => ([], s)
  | test :: tests, s =>
    let (outcome, s) := observe host config test s
    let (outcomes, s) := observeEach host config tests s
    (outcome :: outcomes, s)

end Assay.Smoke
