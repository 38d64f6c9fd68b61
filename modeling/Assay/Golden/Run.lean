import Assay.Golden.Config
import Assay.RunError
import Assay.Session

/-!
# Golden runs

For every test, in order: compile it, run the artifact without arguments, read the fixture, compare,
report. A compiler that does not start or does not exit with 0, an artifact that does not start and
a fixture that cannot be read end the run; the artifact's exit code and everything on standard error
are ignored. The fixture is read after the artifact ran, so it is always the current one.

`judge` is one test without its report, `run` a whole list.
-/

namespace Assay.Golden

variable {σ : Type}

/-- Compiles a test. -/
def build (host : Host σ) (config : Config) (test : Test) (s : Session σ) :
    Except RunError Unit × Session σ :=
  let s := s.tell [.goldenTest test] (.building config.compiler)
  match s.launch host [.goldenTest test] ⟨config.compiler, config.buildArgs test.source⟩ with
  | (.error cause, s) => (.error (.compilerLaunch test cause), s)
  | (.ok output, s) =>
    if output.success then (.ok (), s)
    else (.error (.buildFailed test config.compiler output.exitCode), s)

/-- Runs the artifact of a test that was compiled. -/
def execute (host : Host σ) (config : Config) (test : Test) (s : Session σ) :
    Except RunError Output × Session σ :=
  match s.launch host [.goldenTest test] ⟨config.artifact.anchored, []⟩ with
  | (.error cause, s) => (.error (.artifactLaunch test cause), s)
  | (.ok output, s) =>
    (.ok output,
      if output.success then s
      else s.tell [.goldenTest test] (.artifactStatusIgnored output.exitCode))

/-- Compares an output with the fixture of a test. -/
def compare (host : Host σ) (test : Test) (output : Output) (s : Session σ) :
    Except RunError Verdict × Session σ :=
  match s.readFile host test.fixture with
  | .error cause => (.error (.fixture test.fixture cause), s)
  | .ok expected =>
    let verdict := Verdict.compare output.stdout expected
    (.ok verdict, s.tell [.goldenTest test] (.compared test.fixture verdict))

/-- Compiles, runs and compares one test. -/
def judge (host : Host σ) (config : Config) (test : Test) (s : Session σ) :
    Except RunError Verdict × Session σ :=
  match build host config test s with
  | (.error e, s) => (.error e, s)
  | (.ok (), s) =>
    match execute host config test s with
    | (.error e, s) => (.error e, s)
    | (.ok output, s) => compare host test output s

/-- Judges a test and reports the verdict. -/
def step (host : Host σ) (config : Config) (test : Test) (s : Session σ) :
    Except RunError Verdict × Session σ :=
  match judge host config test s with
  | (.error e, s) => (.error e, s)
  | (.ok verdict, s) =>
    match s.reportVerdict test verdict with
    | (.error cause, s) => (.error (.report cause), s)
    | (.ok (), s) => (.ok verdict, s)

/-- Judges and reports tests in order up to the first error, counting verdicts. -/
def steps (host : Host σ) (config : Config) :
    List Test → Tally → Session σ → Except RunError Tally × Session σ
  | [], tally, s => (.ok tally, s)
  | test :: tests, tally, s =>
    match step host config test s with
    | (.error e, s) => (.error e, s)
    | (.ok verdict, s) => steps host config tests (tally.record verdict) s

/-- Runs a list of tests. An empty list is a completed run in which nothing is called. -/
def run (host : Host σ) (config : Config) (tests : List Test) (s : Session σ) :
    Except RunError Tally × Session σ :=
  match steps host config tests {} s with
  | (.error e, s) => (.error e, s)
  | (.ok tally, s) => (.ok tally, s.tell [] (.goldenCompleted tally))

/-- Judges every test in order, going on after errors and reporting nothing. -/
def judgeEach (host : Host σ) (config : Config) :
    List Test → Session σ → List (Except RunError Verdict) × Session σ
  | [], s => ([], s)
  | test :: tests, s =>
    let (result, s) := judge host config test s
    let (results, s) := judgeEach host config tests s
    (result :: results, s)

end Assay.Golden
