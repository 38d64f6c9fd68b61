import Assay.CommandLine.Parser
import Assay.Execution
import Assay.Log.Filter

/-!
# The program

One run of the program, from its arguments to its exit code. Reports and answers to questions go to
standard output; standard error carries the log lines that the user chose to see and, after them,
the reason of a failure.

The exit code is 2 where the arguments are not understood, 1 where the command failed, and 0
otherwise.
-/

namespace Assay.Program

variable {σ : Type}

/-- The environment variable that chooses the log lines. -/
def logVariable : String := "RUST_LOG"

/-- What the program takes from its environment. -/
structure Environment where
  /-- The compiler to use where the command line names none. -/
  compiler : Option String
  /-- The choice of log lines. -/
  logChoice : Option String
deriving DecidableEq, Repr

/-- What the program leaves behind. -/
structure Ending where
  exitCode : Int
  stdout : Bytes
  /-- The entries of the log that standard error shows. -/
  shown : List String
  /-- What follows the log lines on standard error. -/
  reason : String
deriving DecidableEq, Repr

namespace Ending

/-- What standard error shows. -/
def stderr (e : Ending) : String := String.join (e.shown.map (· ++ "\n")) ++ e.reason

/-- The number of lines on standard error. -/
def stderrLines (e : Ending) : Nat := e.stderr.toList.count '\n'

end Ending

/-- The bytes of a text. -/
def bytes (text : String) : Bytes := Text.Utf8.encode text.toList

/-- The ending of a program that runs no command. -/
def stopped (e : CommandLine.Stop) : Ending :=
  if e.isAnswer then ⟨e.exitCode, bytes e.message, [], ""⟩
  else ⟨e.exitCode, [], [], e.text⟩

/-- What standard error shows of a failure. A failure without a message shows nothing. -/
def reasonOf (failure : Failure) : String :=
  if failure.message = "" then "" else failure.message ++ "\n"

/-- The ending of a command that left a session. -/
def ended (filter : Log.Filter) : Except Failure Int × Session σ → Ending
  | (.ok exitCode, s) => ⟨exitCode, s.console.written, s.log.filterMap filter.text?, ""⟩
  | (.error failure, s) =>
    ⟨failure.exitCode, s.console.written, s.log.filterMap filter.text?, reasonOf failure⟩

/-- Runs the program on its arguments, its own name left out. -/
def run (host : Host σ) (environment : Environment) (arguments : List String) (world : σ) :
    Ending × σ :=
  match CommandLine.parse arguments with
  | .error e => (stopped e, world)
  | .ok command =>
    let ending := Execution.run host environment.compiler command (.start world .unlimited)
    (ended (Log.Filter.ofChoice environment.logChoice) ending, ending.2.world)

end Assay.Program
