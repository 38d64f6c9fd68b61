import Assay.Kernel.Service

/-!
# Scheduling

One process is carried on at a time: it takes a number of steps, or as many as it can before it has
to wait, and then the next one has its turn. Every step takes time. When all processes wait, time
passes until the first sleep ends; when none sleeps either, nothing will ever happen again.
-/

namespace Assay.Kernel

namespace World

/-- The time that a request takes. -/
def cost : Request → Duration
  | .execute .. => 500
  | _ => 2

/-- The time that starting a process takes. -/
def forkCost : Duration := 200

/-- The world when some time has passed. -/
def after (w : World) (d : Duration) : World := { w with clock := w.clock + d }

/-- A process goes on with an answer. -/
def goOn (w : World) (id : ProcessId) (task : Task) : World :=
  w.change id fun p =>
    { p with activity := .ready task, wakes := none, progress := 0 }

/-- Starts a copy of a process. -/
def startCopy (w : World) (p : Process) (child : Task) (next : ProcessId → Task) : World :=
  let id := w.nextId
  let copy := { p with id, parent := p.id, noted := [], doomed := none, wakes := none
                       progress := 0
                       activity := .ready child }
  let w := (w.goOn p.id (next id)).after forkCost
  { w with processes := w.processes ++ [copy], nextId := id + 1 }

/-- Asks for something on behalf of a process. `none` means that it still waits and nothing has
changed. -/
def request (boot : Image → List Binding → Task) (w : World) (p : Process) (r : Request)
    (next : r.Reply → Task) (waited : Bool) : Option World :=
  match w.serve boot p r with
  | .answer value w => some ((w.goOn p.id (next value)).after (cost r))
  | .gone w => some (w.after (cost r))
  | .wait w =>
    match p.noted.isEmpty, brokenOff? r with
    | false, some value => some ((w.goOn p.id (next value)).after (cost r))
    | _, _ =>
      let moved := (w.process? p.id).any (·.progress != p.progress)
      if waited && !moved then none
      else some (w.change p.id ({ · with activity := .waiting r next }))

/-- Carries a process on by one step, if it can go on. -/
def step? (boot : Image → List Binding → Task) (w : World) (p : Process) : Option World :=
  if !p.isAlive then none
  else if p.doomed.any fun signal => signal = Signal.kill || !p.stopped then
    some (w.finish p.id (.killed (p.doomed.getD Signal.kill)))
  else if p.stopped then none
  else
    match p.activity with
    | .ended _ => none
    | .ready (.exit code) => some (w.finish p.id (.exited (code % 256)))
    | .ready (.fork child next) => some (w.startCopy p child next)
    | .ready (.call r next) => w.request boot p r next false
    | .waiting r next => w.request boot p r next true

/-- The number of steps that a process takes before the next one has its turn. -/
def turnLength : Nat := 100

/-- The processes in the order of their turns, where one has the first. -/
def inTurn (w : World) (first : ProcessId) : List Process :=
  w.processes.filter (first ≤ ·.id) ++ w.processes.filter (·.id < first)

/-- The time at which the first sleep ends. -/
def nextWake? (w : World) : Option Nat :=
  (w.processes.filterMap fun p => if p.stopped then none else p.wakes).min?

/-- The first process that can go on, which takes a step. -/
def firstStep (boot : Image → List Binding → Task) (w : World) :
    List Process → Option (ProcessId × World)
  | [] => none
  | p :: others =>
    match w.step? boot p with
    | some w => some (p.id, w)
    | none => firstStep boot w others

/-- Carries processes on until `isOver` holds, nothing can happen any more or the fuel is spent. The
process whose turn it is has a number of steps left. -/
def run (boot : Image → List Binding → Task) (isOver : World → Bool) :
    (fuel : Nat) → (turn : ProcessId) → (steps : Nat) → World → World
  | 0, _, _, w => w
  | n + 1, turn, steps, w =>
    if isOver w then w
    else
      let first := if steps = 0 then turn + 1 else turn
      match w.firstStep boot (w.inTurn first) with
      | some (id, w) => run boot isOver n id (if id = turn then steps - 1 else turnLength) w
      | none =>
        match w.nextWake? with
        | some time =>
          if time ≤ w.clock then w else run boot isOver n turn turnLength { w with clock := time }
        | none => w

/-- The steps after which a run is given up. -/
def patience : Nat := 1000000000

end World

end Assay.Kernel
