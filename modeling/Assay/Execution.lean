import Assay.CommandLine.Setting
import Assay.Golden.Run
import Assay.Smoke.Run

/-!
# Execution of commands

A command collects its tests, then runs them. Verdicts and outcomes do not matter to its end: a run
that completes ends with exit code 0, however many tests failed, and only an error that ends the run
early, or keeps it from beginning, is a `Failure`.
-/

namespace Assay

/-- Why a command failed, as it is shown, and the exit code. -/
structure Failure where
  message : String
  exitCode : Int
deriving DecidableEq, Repr

namespace Failure

/-- A failure with the usual exit code. -/
def ofMessage (message : String) : Failure := ⟨message, 1⟩

/-- The failure that shows a diagnostic. -/
def ofDiagnostic (d : Diagnostic) : Failure := ofMessage d.report

end Failure

namespace Execution

open CommandLine (Command GoldenOptions)

variable {σ : Type}

/-- The exit code of a command that was carried out. -/
def success : Int := 0

/-- The tests of a command, or the failure to know them. -/
def collect (host : Host σ) (selection : Selection) (s : Session σ) :
    Except Failure (List Test) × Session σ :=
  match selection.collect host s with
  | (.error e, s) => (.error (.ofDiagnostic e.diagnostic), s)
  | (.ok tests, s) => (.ok tests, s)

/-- Takes note of the test that stopped a golden run. -/
def noteAbort (e : RunError) (s : Session σ) : Session σ :=
  match e.test? with
  | some test => s.tell [] (.goldenAborted test)
  | none => s

/-- Carries out a golden command. -/
def golden (host : Host σ) (config : Golden.Config) (selection : Selection) (s : Session σ) :
    Except Failure Int × Session σ :=
  match collect host selection s with
  | (.error failure, s) => (.error failure, s)
  | (.ok tests, s) =>
    match Golden.run host config tests s with
    | (.error e, s) => (.error (.ofDiagnostic e.diagnostic), noteAbort e s)
    | (.ok _, s) => (.ok success, s)

/-- Carries out a smoke command. -/
def smoke (host : Host σ) (config : Smoke.Config) (selection : Selection) (s : Session σ) :
    Except Failure Int × Session σ :=
  match collect host selection s with
  | (.error failure, s) => (.error failure, s)
  | (.ok tests, s) =>
    match Smoke.run host config tests s with
    | (.error e, s) => (.error (.ofDiagnostic e.diagnostic), s)
    | (.ok _, s) => (.ok success, s)

/-- Carries out a command. The environment may name a compiler. -/
def run (host : Host σ) (environmentCompiler : Option String) (command : Command)
    (s : Session σ) : Except Failure Int × Session σ :=
  match command with
  | .golden selection options => golden host (options.config environmentCompiler) selection s
  | .smoke selection dir => smoke host (Smoke.Config.default.withDir dir) selection s

end Execution

end Assay
