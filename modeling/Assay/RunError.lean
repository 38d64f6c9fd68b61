import Assay.Process
import Assay.Test

/-!
# Errors that end a run

A golden run ends early when a test cannot be judged: the compiler cannot be started or fails, the
artifact cannot be started, the fixture cannot be read. Both kinds of run end early when the report
cannot be written. Nothing else ends a run.
-/

namespace Assay

/-- Why a run ended early. -/
inductive RunError where
  | buildFailed (test : Test) (compiler : Path) (status : Int)
  | compilerLaunch (test : Test) (cause : LaunchError)
  | artifactLaunch (test : Test) (cause : LaunchError)
  | fixture (path : Path) (cause : IoError)
  | report (cause : IoError)
deriving DecidableEq, Repr

namespace RunError

/-- The test an error belongs to, if it belongs to one. -/
def test? : RunError → Option Test
  | buildFailed test .. | compilerLaunch test _ | artifactLaunch test _ => some test
  | fixture .. | report _ => none

/-- The text of an error, without its causes. -/
def message : RunError → String
  | buildFailed test compiler status =>
    "build failed for " ++ test.id ++ ": " ++ compiler.text ++ " exited with status " ++
      Text.integer status
  | compilerLaunch test _ => "could not start compiler for " ++ test.id
  | artifactLaunch test _ => "could not run built artifact for " ++ test.id
  | fixture path _ => "cannot read fixture '" ++ path.text ++ "'"
  | report cause => "failed to write report: " ++ cause.message

end RunError

end Assay
