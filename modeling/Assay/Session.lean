import Assay.Process
import Assay.Log
import Assay.Sink
import Assay.Outcome

/-!
# Sessions

A run is a function on sessions. A session holds the host's world, the calls made so far, the events
told so far and the sink of the report; a run only ever adds to the last three. Each step gives its
result beside the session it leaves, also when it fails, so that what was done before a failure
stays done.
-/

namespace Assay

/-- The state of a run. -/
structure Session (σ : Type) where
  world : σ
  calls : List Call
  log : List Log.Entry
  console : Sink

namespace Session

variable {σ : Type}

/-- A session at its beginning. -/
def start (world : σ) (console : Sink) : Session σ := ⟨world, [], [], console⟩

/-- Tells an event that happens within spans. -/
def tell (within : List Span) (event : Event) (s : Session σ) : Session σ :=
  { s with log := s.log ++ [⟨event, within⟩] }

/-- The span of a call. -/
def spanOf (call : Call) : Span := .launch call.program call.arguments.length

/-- Runs a program and takes note of the call. -/
def launch (host : Host σ) (within : List Span) (call : Call) (s : Session σ) :
    Except LaunchError Output × Session σ :=
  match host.launch call s.world with
  | (.ok output, world) =>
    let s := { s with world, calls := s.calls ++ [call] }
    (.ok output,
      if host.logsExits then
        s.tell (within ++ [spanOf call]) (.childExited output.exitCode output.stdout.length)
      else s)
  | (.error cause, world) => (.error cause, { s with world, calls := s.calls ++ [call] })

/-- The contents of a file as they are now. -/
def readFile (host : Host σ) (path : Path) (s : Session σ) : Except IoError Bytes :=
  host.readFile path s.world

/-- Prints a text, given in pieces, to the console. -/
def print (pieces : List String) (s : Session σ) : Except IoError Unit × Session σ :=
  let (result, console) := s.console.print pieces
  (result, { s with console })

/-- Reports the verdict on a test. -/
def reportVerdict (test : Test) (verdict : Verdict) (s : Session σ) :
    Except IoError Unit × Session σ :=
  s.print (verdict.pieces test)

/-- Reports the outcome of a smoke test. The test's name is no part of the report. -/
def reportOutcome (outcome : Outcome) (s : Session σ) : Except IoError Unit × Session σ :=
  s.print outcome.pieces

end Session

end Assay
