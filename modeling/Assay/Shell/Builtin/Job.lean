import Assay.Shell.Builtin.Option
import Assay.Shell.Waiting

/-!
# Commands for jobs and signals

`jobs`, `wait`, `kill`, `fg`, `bg` and `trap`. Jobs are named by `%` and a number, or by `%+` and
`%-` for the last one and the one before. The shell has no terminal, so it keeps no text of its jobs
and moves none to the foreground.
-/

namespace Assay.Shell.Builtin

open Kernel (Ending Request)
open Text (Octets)

open Run

/-! ### Jobs -/

/-- The job that a name stands for. -/
def jobOf (name : Octets) : Run Job := do
  let s ← get
  let none' {α : Type} : Run α := fail (octets "No such job: " ++ name)
  let or (job : Option Job) (message : String) : Run Job :=
    match job with
    | some job => pure job
    | none => fail (octets message)
  match name with
  | ['%'] | ['%', '+'] | ['%', '%'] => or s.jobs.head? "No current job"
  | ['%', '-'] => or s.jobs[1]? "No previous job"
  | '%' :: text =>
    if !text.all Char.isDigit then none'
    else
      match s.jobs.find? (·.number == Numeral.ofDigits 10 text) with
      | some job => pure job
      | none => none'
  | _ => none'

/-- How a job is shown: whether its processes are, or only the first of them. -/
inductive JobView where
  | plain
  | withProcesses
  | firstProcess
deriving DecidableEq, Repr

/-- What a job is doing. -/
def stateOf (j : Job) : Octets :=
  if !j.isDone then octets "Running"
  else
    match j.members.getLast?.bind (·.ending) with
    | some (.killed signal) => octets (Kernel.Signal.text signal)
    | some (.exited 0) | none => octets "Done"
    | some (.exited code) => octets "Done(" ++ Text.digits code ++ [')']

/-- Shows a job. One that has ended is forgotten. -/
def showJob (view : JobView) (j : Job) : Run Unit := do
  let pad (s : Octets) : Octets := s ++ List.replicate (max 1 (33 - s.length)) ' '
  if view = .firstProcess then
    say (Text.digits ((j.members.head?.map (·.id)).getD 0) ++ ['\n'])
  else
    let jobs := (← get).jobs
    let sign :=
      if jobs.head?.map (·.number) == some j.number then '+'
      else if (jobs[1]?).map (·.number) == some j.number then '-'
      else ' '
    let front := '[' :: Text.digits j.number ++ [']', ' ', sign, ' ']
    let others := j.members.tail
    match view with
    | .withProcesses =>
      let first := Text.digits ((j.members.head?.map (·.id)).getD 0) ++ [' ']
      say (pad (front ++ first ++ stateOf j))
      others.forM fun m =>
        say (pad (octets " |\n" ++ List.replicate front.length ' ' ++ Text.digits m.id ++ [' ']))
      say ['\n']
    | _ =>
      say (pad (front ++ stateOf j))
      others.forM fun _ => say (octets " | ")
      say ['\n']
    if j.isDone then forgetJob j.number

/-- Shows jobs. -/
def showJobs (arguments : List Octets) : Run Nat := do
  let (given, names) ← options [('l', false), ('p', false)] arguments
  let view : JobView := match given.getLast? with
    | some ('l', _) => .withProcesses
    | some _ => .firstProcess
    | none => .plain
  if names.isEmpty then
    let _ ← awaitFrom none waitLimit .look
    (← get).jobs.forM (showJob view)
  else names.forM fun name => do showJob view (← jobOf name)
  pure 0

/-- Refuses to move a job to the foreground or the background. -/
def moveJob (arguments : List Octets) : Run Nat := do
  match ← operands arguments with
  | [] =>
    let _ ← jobOf ['%']
    failPlain "job (null) not created under job control"
  | name :: _ =>
    let _ ← jobOf name
    fail (octets "job " ++ name ++ octets " not created under job control")

/-! ### Waiting -/

/-- The status of a wait that a signal broke off. -/
def brokenOffStatus : Run Nat := return 128 + ((← get).pending.head?.getD 0)

/-- Notes that the status of a job was asked for. -/
def noteWaited (number : Nat) : Run Unit := changeJob number fun j => { j with waited := true }

/-- Waits until no job runs. -/
def waitForAll : Nat → Run Nat
  | 0 => pure 0
  | n + 1 => do
    if (← get).jobs.all (·.isDone) then
      modify fun s => { s with jobs := s.jobs.map fun j => { j with waited := true } }
      pure 0
    else if ← awaitFrom none waitLimit .childOrSignal then waitForAll n
    else brokenOffStatus

/-- Waits for jobs one after the other, and gives the status of the last one. -/
def waitForEach : List Octets → (status : Nat) → Run Nat
  | [], status => pure status
  | name :: names, status => do
    let job ←
      if name.head? == some '%' then some <$> jobOf name
      else
        let id ← number name
        pure ((← get).jobs.find? fun j => j.members.getLast?.map (·.id) == some id)
    match job with
    | none => waitForEach names status
    | some job =>
      if ← awaitFrom (some job.number) waitLimit .childOrSignal then
        noteWaited job.number
        let job := ((← get).jobs.find? (·.number == job.number)).getD job
        waitForEach names job.status
      else brokenOffStatus

/-- Waits for jobs. -/
def wait (arguments : List Octets) : Run Nat := do
  match ← operands arguments with
  | [] => waitForAll waitLimit
  | names => waitForEach names 127

/-! ### Sending signals -/

/-- How `kill` is used. -/
def killUsage {α : Type} : Run α :=
  failPlain ("Usage: kill [-s sigspec | -signum | -sigspec] [pid | job]... or\n" ++
    "kill -l [exitstatus]")

/-- Sends a signal to a process or job, and tells whether that went well. -/
def sendTo (signal : Nat) (name : Octets) : Run Bool := do
  let target : Int ← match name with
    | '%' :: _ => do
      let job ← jobOf name
      pure (-(((job.members.head?.map (·.id)).getD 0 : Nat) : Int))
    | '-' :: text => do pure (-((← number text : Nat) : Int))
    | text => do pure (← number text : Nat)
  match ← ask (.send target signal) with
  | .ok _ => pure true
  | .error e =>
    complain (octets (e.reason ++ "\n"))
    pure false

/-- Shows the names of signals. -/
def listSignals : List Octets → Run Nat
  | [] => do
    say (octets "0\n")
    Kernel.Signal.names.forM fun name => say (octets (name ++ "\n"))
    pure 0
  | text :: _ => do
    let n ← number text
    let signal := if 128 < n then n - 128 else n
    if 0 < signal ∧ signal ≤ Kernel.Signal.last then
      say (octets (Kernel.Signal.name signal ++ "\n"))
      pure 0
    else fail (octets "invalid signal number or exit status: " ++ text)

/-- Sends signals. -/
def kill (arguments : List Octets) : Run Nat := do
  let (lists, signal, names) ← match arguments with
    | [] => killUsage
    | ('-' :: text) :: rest =>
      match Kernel.Signal.ofText? 1 text with
      | some signal => pure (false, some signal, rest)
      | none => do
        let (given, names) ← options [('l', false), ('s', true)] arguments
        let signal ← given.foldlM (fun signal (c, value) => do
          if c != 's' then pure signal
          else
            match Kernel.Signal.ofText? 1 value with
            | some n => pure (some n)
            | none => fail (octets "invalid signal number or name: " ++ value)) none
        pure (has given 'l', signal, names)
    | names => pure (false, none, names)
  if lists then
    if signal.isSome then killUsage
    listSignals names
  else
    if names.isEmpty then killUsage
    let results ← names.mapM (sendTo (signal.getD Kernel.Signal.term))
    pure (if results.all (·) then 0 else 1)

/-! ### What is done at signals -/

/-- Shows what is done at signals. -/
def showTraps : Run Nat := do
  let traps := (← get).traps.mergeSort fun a b => a.1 ≤ b.1
  traps.forM fun (signal, action) =>
    say (octets "trap -- " ++ quoted action ++ octets (" " ++ Kernel.Signal.name signal ++ "\n"))
  pure 0

/-- Settles what is done at a signal: `none` for what it does by itself. -/
def arrange (signal : Nat) (action : Option Octets) : Run Unit := do
  modify fun s =>
    let others := s.traps.filter (·.1 != signal)
    { s with traps := (action.toList.map (signal, ·)) ++ others }
  if signal != 0 && Kernel.Signal.isCatchable signal then
    ask (.arrange signal (match action with
      | none => .usual
      | some [] => .ignored
      | some _ => .caught))

/-- Settles what is done at signals one after the other. -/
def arrangeAll (action : Option Octets) : List Octets → Run Nat
  | [] => pure 0
  | name :: names => do
    match Kernel.Signal.ofText? 0 name with
    | none =>
      let _ ← emit 2 (octets "trap: " ++ name ++ octets ": bad trap\n")
      pure 1
    | some signal =>
      arrange signal action
      arrangeAll action names

/-- Settles or shows what is done at signals. -/
def trap (arguments : List Octets) : Run Nat := do
  match ← operands arguments with
  | [] => showTraps
  | [name] => arrangeAll none [name]
  | action :: names =>
    if (Kernel.Signal.ofText? 0 action).isSome && action.all Char.isDigit then
      arrangeAll none (action :: names)
    else arrangeAll (if action == ['-'] then none else some action) names

end Assay.Shell.Builtin
