import Assay.Files
import Assay.Process

/-!
# Replayed hosts

A replayed host runs nothing: it answers each call with the next of the replies prepared for it,
whatever the call is, and a call for which no reply is left with the error of a missing file. A
reply may change files before it is given, so that a compiler that writes a program, or a program
that changes a fixture, can be replayed too.
-/

namespace Assay

/-- A prepared reply. -/
structure Reply where
  /-- What happens to the files before the reply is given. -/
  changes : List Files.Change
  answer : Except IoError Output
deriving Repr

/-- Prepared replies, and the files they work on. -/
structure Replay where
  files : Files
  replies : List Reply

namespace Replay

/-- Gives the next reply. -/
def answer (call : Call) (world : Replay) : Except LaunchError Output × Replay :=
  match world.replies with
  | [] => (.error (.ofIo call.program .noEntry), world)
  | reply :: replies =>
    (reply.answer.mapError (.ofIo call.program), ⟨world.files.applyAll reply.changes, replies⟩)

/-- The host that gives prepared replies. -/
def host : Host Replay where
  launch := answer
  readFile path world := world.files.read path
  logsExits := false

end Replay

end Assay
