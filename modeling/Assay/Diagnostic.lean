import Assay.RunError
import Assay.Text.Wrap

/-!
# Diagnostics

What a user is shown of a fatal error: a code by which it can be looked up, its text, the texts of
its causes from the outermost to the innermost, and a hint where there is one.

The report is laid out for eighty columns. The code stands first, on a line of its own; then the
text under a cross, each cause under an arrow of its own, and the hint; longer texts go on under
their own beginning.
-/

namespace Assay

/-- What is shown of an error. -/
structure Diagnostic where
  code : String
  message : String
  /-- The texts of the causes, the outermost first. -/
  causes : List String
  help : Option String
deriving DecidableEq, Repr

namespace Diagnostic

/-- The columns of a report line. Two of the eighty are left free. -/
def width : Nat := 78

/-- A text laid out in a report, with its newline. -/
def block (firstIndent indent text : String) : List Char :=
  (Text.Wrap.Layout.mk width firstIndent.toList indent.toList).layOut text.toList ++ ['\n']

/-- The blocks of the causes. A bar runs down to the last one. -/
def causeBlocks : List String → List Char
  | [] => []
  | [last] => block "  ╰─▶ " "      " last
  | cause :: causes => block "  ├─▶ " "  │   " cause ++ causeBlocks causes

/-- The block of the hint. -/
def helpBlock : Option String → List Char
  | none => []
  | some help => block "  help: " "        " help

/-- The report of an error. -/
def report (d : Diagnostic) : String :=
  String.ofList (d.code.toList ++ ['\n', '\n'] ++ block "  × " "  │ " d.message ++
    causeBlocks d.causes ++ helpBlock d.help)

end Diagnostic

/-- What is shown of a launch error. A missing program has no cause: its path says it all. -/
def LaunchError.diagnostic (e : LaunchError) : Diagnostic :=
  match e with
  | .notFound _ => ⟨"harness::process::not_found", e.message, [], none⟩
  | .failed _ cause => ⟨"harness::process::launch", e.message, cause.chain, none⟩

/-- What is shown of an error that ended a run. -/
def RunError.diagnostic (e : RunError) : Diagnostic :=
  match e with
  | .buildFailed .. =>
    ⟨"harness::golden::build_failed", e.message, [],
      some "the compiler must exit 0 for the test to be run; remaining tests were skipped"⟩
  | .compilerLaunch _ cause =>
    ⟨"harness::golden::compiler_launch", e.message,
      cause.diagnostic.message :: cause.diagnostic.causes,
      some "set --cc or GOLDEN_HARNESS_CC to the compiler path"⟩
  | .artifactLaunch _ cause =>
    ⟨"harness::golden::artifact_launch", e.message,
      cause.diagnostic.message :: cause.diagnostic.causes, none⟩
  | .fixture _ cause =>
    ⟨"harness::golden::fixture", e.message, cause.chain,
      some "each golden test needs a <test>.expected file holding its exact stdout"⟩
  | .report cause => ⟨"harness::report", e.message, cause.chain, none⟩

end Assay
