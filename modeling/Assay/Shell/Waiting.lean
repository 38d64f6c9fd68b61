import Assay.Shell.Interpreter

/-!
# Waiting for jobs

A job is a pipeline that was started: a command in the foreground, for which the shell waits at
once, or one in the background. When a child ends, it is noted in its job. A signal that ended a
child of the job that is waited for is told on the error output, unless everybody knows of it
anyway.
-/

namespace Assay.Shell

open Kernel (Ending ProcessId Request)
open Text (Octets)

namespace Run

/-- Notes the signals that came. -/
def collectSignals : Run Unit := do
  let came ← ask .takeSignals
  modify fun s => { s with pending := s.pending ++ came.filter (!s.pending.contains ·) }

/-- How long a wait lasts. -/
inductive Patience where
  /-- Only to look. -/
  | look
  /-- Until a child has ended. -/
  | child
  /-- Until a child has ended or a signal came for which something is to be done. -/
  | childOrSignal
deriving DecidableEq, Repr

/-- What a wait came to. -/
inductive Arrival where
  | nobody
  | signal
  | child
deriving DecidableEq, Repr

/-- Notes in its job that a child ended, and gives the number of the job. -/
def noteEnding (id : ProcessId) (ending : Ending) : Run (Option Nat) := do
  let hasIt (j : Job) : Bool := j.members.any fun m => m.id == id && m.ending.isNone
  match (← get).jobs.find? hasIt with
  | none => pure none
  | some job =>
    changeJob job.number fun j =>
      { j with members := j.members.map fun m =>
          if m.id == id then { m with ending := some ending } else m }
    pure (some job.number)

/-- Tells of the signal that ended a child. -/
def tellSignal : Ending → Run Unit
  | .killed signal => do
    unless Kernel.Signal.isSilent signal do
      let _ ← emit 2 (octets (Kernel.Signal.text signal) ++ ['\n'])
  | .exited _ => pure ()

/-- Waits for one child. -/
def awaitOne (patience : Patience) (job : Option Nat) : Nat → Run Arrival
  | 0 => pure .nobody
  | n + 1 => do
    if patience = .childOrSignal then
      collectSignals
      if !(← get).pending.isEmpty then
        -- A child that has ended already is taken first.
        match ← ask (.await none false) with
        | .ok (some (id, ending)) => return ← arrived id ending
        | _ => return .signal
    match ← ask (.await none (patience != .look)) with
    | .ok (some (id, ending)) => arrived id ending
    | .ok none => pure .nobody
    | .error e =>
      if e != .interrupted then pure .nobody
      else
        collectSignals
        if patience = .childOrSignal && !(← get).pending.isEmpty then pure .signal
        else awaitOne patience job n
where
  /-- Notes that a child ended. -/
  arrived (id : ProcessId) (ending : Ending) : Run Arrival := do
    let found ← noteEnding id ending
    if found.isSome && found == job then tellSignal ending
    pure .child

/-- Whether a job still runs. -/
def runs (number : Nat) : Run Bool :=
  return (← get).jobs.any fun j => j.number == number && !j.isDone

/-- The number of waits that may be needed. -/
def waitLimit : Nat := 1000000000

/-- Waits until a job has ended, or for one child if no job is given, and then looks whether others
have ended too. Tells whether it was not broken off by a signal. -/
def awaitFrom (job : Option Nat) : Nat → Patience → Run Bool
  | 0, _ => pure true
  | n + 1, patience => do
    match ← awaitOne (if ← isOver then .look else patience) job waitLimit with
    | .nobody => pure true
    | .signal =>
      let _ ← awaitFrom job n .look
      pure false
    | .child => awaitFrom job n (if job.isNone || (← isOver) then .look else patience)
where
  /-- Whether the job has ended. -/
  isOver : Run Bool := do
    match job with
    | some number => return !(← runs number)
    | none => pure false

/-- Waits for a job in the foreground, forgets it, and gives its status. -/
def awaitJob (number : Nat) : Run Nat := do
  let _ ← awaitFrom (some number) waitLimit .child
  let status := ((← get).jobs.find? (·.number == number)).map (·.status)
  forgetJob number
  pure (status.getD 0)

end Run

end Assay.Shell
