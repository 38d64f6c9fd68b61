import Assay.Verdict
import Assay.Text.Decimal
import Assay.Text.Quoted

/-!
# The log

What happens during a run is told as a sequence of events. An event has a level, a message and
named fields; fields are texts, numbers in decimal and paths as they are written.

Some events happen within spans: while a test is run, or while a program is. A span has a name and
fields too, and an entry of the log tells the spans around its event, the outermost first.
-/

namespace Assay

/-- How urgent an event is. -/
inductive Level where
  | error
  | warn
  | info
  | debug
deriving DecidableEq, Repr

namespace Level

/-- The level's name. -/
def name : Level → String
  | error => "ERROR"
  | warn => "WARN"
  | info => "INFO"
  | debug => "DEBUG"

/-- The level's place, the most urgent first. -/
def rank : Level → Nat
  | error => 1
  | warn => 2
  | info => 3
  | debug => 4

end Level

/-- An event of a run. -/
inductive Event where
  /-- A test list was read and holds `count` tests. -/
  | listLoaded (path : Path) (count : Nat)
  /-- All tests of a command are known. -/
  | testsCollected (count : Nat)
  /-- The compiler is about to be called. -/
  | building (compiler : Path)
  /-- An artifact ended with a code other than 0, which does not matter. -/
  | artifactStatusIgnored (exitCode : Int)
  /-- An artifact's output was compared with a fixture. -/
  | compared (fixture : Path) (verdict : Verdict)
  /-- A golden run ended without an error. -/
  | goldenCompleted (tally : Tally)
  /-- A golden run was stopped by an error that belongs to a test. -/
  | goldenAborted (test : Test)
  /-- A child was awaited. -/
  | childExited (exitCode : Int) (stdoutLength : Nat)
  /-- A smoke test ran to its end. -/
  | smokeCompleted (code : Int)
  /-- A smoke test could not be started. -/
  | smokeNotLaunched (executable : Path) (detail : String)
  /-- A smoke test has no executable. -/
  | smokeMissing (executable : Path)
deriving DecidableEq, Repr

namespace Event

/-- The level of an event. -/
def level : Event → Level
  | compared .. | goldenCompleted .. | smokeCompleted .. => .info
  | goldenAborted .. => .error
  | smokeNotLaunched .. | smokeMissing .. => .warn
  | _ => .debug

/-- Which part of the program tells an event. -/
def origin : Event → String
  | testsCollected .. | goldenAborted .. => "golden_harness::cli::commands"
  | listLoaded .. => "golden_harness::harness::case"
  | building .. | artifactStatusIgnored .. | compared .. | goldenCompleted .. =>
    "golden_harness::harness::golden"
  | childExited .. => "golden_harness::harness::process"
  | smokeCompleted .. | smokeNotLaunched .. | smokeMissing .. => "golden_harness::harness::smoke"

/-- The message of an event. -/
def message : Event → String
  | listLoaded .. => "loaded test list"
  | testsCollected .. => "collected tests"
  | building .. => "building"
  | artifactStatusIgnored .. => "artifact exited non-zero; status ignored"
  | compared fixture _ => "compared against " ++ fixture.text
  | goldenCompleted .. => "golden run complete"
  | goldenAborted .. => "golden run aborted"
  | childExited .. => "child exited"
  | smokeCompleted .. => "smoke test completed"
  | smokeNotLaunched .. => "could not launch smoke test"
  | smokeMissing .. => "smoke test executable missing"

/-- The fields of an event, by name. -/
def fields : Event → List (String × String)
  | listLoaded path count => [("path", path.text), ("count", Text.natural count)]
  | testsCollected count => [("count", Text.natural count)]
  | building compiler => [("compiler", compiler.text)]
  | artifactStatusIgnored exitCode => [("exit_code", Text.integer exitCode)]
  | compared _ verdict => [("verdict", verdict.name)]
  | goldenCompleted tally =>
    [("passed", Text.natural tally.passed), ("failed", Text.natural tally.failed)]
  | goldenAborted test => [("test", test.id)]
  | childExited exitCode stdoutLength =>
    [("exit_code", Text.integer exitCode), ("stdout_len", Text.natural stdoutLength)]
  | smokeCompleted code => [("code", Text.integer code)]
  | smokeNotLaunched executable detail =>
    [("executable", executable.text), ("detail", detail)]
  | smokeMissing executable => [("executable", executable.text)]

/-- The fields of an event as they are shown. A test that stopped a run is quoted. -/
def fieldsText : Event → List String
  | goldenAborted test => ["test=" ++ Text.Quoted.quote test.id]
  | e => e.fields.map fun (name, value) => name ++ "=" ++ value

end Event

/-! ### Spans -/

/-- Something that goes on for a while. -/
inductive Span where
  /-- A golden test is compiled, run and compared. -/
  | goldenTest (test : Test)
  /-- A smoke test is run. -/
  | smokeTest (test : Test)
  /-- A program is run. -/
  | launch (program : Path) (argumentCount : Nat)
deriving DecidableEq, Repr

/-- The value of a span's field. -/
inductive FieldValue where
  | text (s : String)
  | number (n : Nat)
deriving DecidableEq, Repr

namespace FieldValue

/-- A value as it is shown. -/
def shown : FieldValue → String
  | text s => s
  | number n => Text.natural n

end FieldValue

namespace Span

/-- The name of a span. -/
def name : Span → String
  | goldenTest _ | smokeTest _ => "run_case"
  | launch .. => "run"

/-- Which part of the program a span belongs to. -/
def origin : Span → String
  | goldenTest _ => "golden_harness::harness::golden"
  | smokeTest _ => "golden_harness::harness::smoke"
  | launch .. => "golden_harness::harness::process"

/-- The level of every span. -/
def level : Level := .info

/-- The fields of a span, by name. -/
def fields : Span → List (String × FieldValue)
  | goldenTest test | smokeTest test => [("test", .text test.id)]
  | launch program argumentCount =>
    [("program", .text program.text), ("argc", .number argumentCount)]

/-- A span as it is shown: its name, and its fields in braces. -/
def shown (s : Span) : String :=
  let fields := s.fields.map fun (name, value) => name ++ "=" ++ value.shown
  s.name ++ "\x7b" ++ " ".intercalate fields ++ "\x7d:"

end Span

/-- An event, and the spans around it. -/
structure Log.Entry where
  event : Event
  /-- The spans around the event, the outermost first. -/
  within : List Span
deriving DecidableEq, Repr

namespace Log.Entry

/-- An entry as text, where only some of its spans are shown. -/
def text (e : Entry) (shown : List Span) : String :=
  let spans := if shown.isEmpty then [] else [String.join (shown.map Span.shown)]
  " ".intercalate (e.event.level.name :: spans ++ (e.event.origin ++ ":") :: e.event.message ::
    e.event.fieldsText)

end Log.Entry

end Assay
