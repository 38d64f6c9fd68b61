import Assay.Process

/-!
# Outcomes of smoke tests

A smoke test is shown, not judged. Whatever happens when its executable is launched is an outcome,
and every outcome has a form of its own in the report.
-/

namespace Assay

/-- What happened when a smoke test was launched. -/
inductive Outcome where
  /-- The executable ran to its end. -/
  | completed (code : Int) (stdout : String)
  /-- The system refused to start it. -/
  | launchFailure (detail : String)
  /-- There is no executable. -/
  | notFound
deriving DecidableEq, Repr

namespace Outcome

/-- The outcome of a launch. An exit code other than 0 is as complete as 0. -/
def ofLaunch : Except LaunchError Output → Outcome
  | .ok output => completed output.exitCode output.stdoutText
  | .error (.notFound _) => notFound
  | .error (.failed program cause) => launchFailure (LaunchError.failed program cause).message

/-- Whether the executable ran to its end. -/
def isCompleted : Outcome → Bool
  | completed .. => true
  | _ => false

/-- The report lines of an outcome, in the pieces in which they are written. The standard output
stands on its line as it is, so a newline at its end shows as an empty line. -/
def pieces : Outcome → List String
  | completed code stdout => ["code: ", Text.integer code, "\n", "stdout: ", stdout, "\n"]
  | launchFailure detail => ["Error running test: ", detail, "\n"]
  | notFound => ["Executable for test not found.\n"]

end Outcome

end Assay
