import Assay.IoError
import Assay.Path
import Assay.Text.Utf8

/-!
# Child processes

Everything that is run outside goes through a `Host`: a call names a program and its arguments, and
the host answers with what the child left behind or with the reason why it was not started. A child
that starts and then fails is an ordinary `Output`; only a child that never started is a
`LaunchError`. A host that learns the reason from the system classifies it by its kind
(`LaunchError.ofIo`).

A host works on a world of its own. Launching may change it in any way; reading a file only looks
at it. Hosts for tests replay prepared answers, and a host may tell the log of every child it has
awaited.
-/

namespace Assay

/-- What a child that ran to its end left behind. A child killed by a signal has the negated signal
number as its exit code. -/
structure Output where
  stdout : Bytes
  stderr : Bytes
  exitCode : Int
deriving DecidableEq, Repr

namespace Output

/-- Whether the child reported success. -/
def success (o : Output) : Bool := o.exitCode == 0

/-- The standard output as text, each invalid part replaced by U+FFFD. -/
def stdoutText (o : Output) : String := String.ofList (Text.Utf8.decodeLossy o.stdout)

end Output

/-- A request to run a program. -/
structure Call where
  program : Path
  arguments : List String
deriving DecidableEq, Repr

/-- A child could not be started at all. -/
inductive LaunchError where
  | notFound (program : Path)
  | failed (program : Path) (cause : IoError)
deriving DecidableEq, Repr

namespace LaunchError

/-- The launch error for the system's reason: a program is missing exactly when the reason's kind
says so. -/
def ofIo (program : Path) (cause : IoError) : LaunchError :=
  if cause.kind = .notFound then .notFound program else .failed program cause

/-- The text of a launch error. -/
def message : LaunchError → String
  | notFound program => "program not found: " ++ program.text
  | failed program cause => "failed to launch " ++ program.text ++ ": " ++ cause.message

end LaunchError

/-- What runs programs and holds files. -/
structure Host (σ : Type) where
  /-- Runs a call to its end. The world afterwards is given also when nothing was started. -/
  launch : Call → σ → Except LaunchError Output × σ
  /-- The contents of a file. -/
  readFile : Path → σ → Except IoError Bytes
  /-- Whether the host tells the log of every child that ended. -/
  logsExits : Bool

end Assay
