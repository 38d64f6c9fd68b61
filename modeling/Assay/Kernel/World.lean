import Assay.Kernel.Signal
import Assay.Kernel.Task

/-!
# The world of processes

Processes share files, pipes and a clock. A descriptor of a process leads to a handle; handles are
shared by a process and its copies, and hold the place in the file where reading or writing goes on.
A pipe keeps what was written to it until it is read.

Whoever runs the machine stands outside: it reads what is written to its own pipes at once, so they
are never full and always have a reader.
-/

namespace Assay.Kernel

open Files (Place Tree Node)
open Text (Octets)

/-- What a handle leads to. -/
inductive Target where
  | place (place : Place)
  | pipe (number : Nat)
deriving DecidableEq, Repr

/-- An open file. -/
structure Handle where
  target : Target
  /-- The place of the next byte. -/
  offset : Nat
  reads : Bool
  writes : Bool
  appends : Bool
deriving Repr

/-- What was written to a pipe, and how much of it was read. -/
structure Pipe where
  bytes : ByteArray
  taken : Nat
  /-- Whether it is read from outside. -/
  outside : Bool
deriving Inhabited

namespace Pipe

/-- The bytes that a pipe can hold. -/
def capacity : Nat := 65536

/-- The bytes that are written at once or not at all. -/
def atomic : Nat := 4096

/-- The number of bytes that wait to be read. -/
def waiting (p : Pipe) : Nat := p.bytes.size - p.taken

/-- The number of bytes for which there is room; a pipe that is read from outside is never full. -/
def room (p : Pipe) (wanted : Nat) : Nat := if p.outside then wanted else capacity - p.waiting

/-- The pipe after bytes were written to it. -/
def add (p : Pipe) (data : Bytes) : Pipe := { p with bytes := data.foldl ByteArray.push p.bytes }

/-- The bytes that a reader gets, and the pipe without them. -/
def take (p : Pipe) (count : Nat) : Bytes × Pipe :=
  let n := min count p.waiting
  let data := (p.bytes.extract p.taken (p.taken + n)).toList
  (data, if n = p.waiting then { p with bytes := .empty, taken := 0 }
    else { p with taken := p.taken + n })

end Pipe

/-- A descriptor's end: a handle, and whether it is shut when a program is executed. -/
structure Opened where
  handle : Nat
  closesOnExecute : Bool
deriving Repr

/-- What a process is doing. -/
inductive Activity where
  | ready (task : Task)
  /-- Waits for the reply. -/
  | waiting (r : Request) (next : r.Reply → Task)
  /-- Has ended, and its parent has not asked for it yet. -/
  | ended (ending : Ending)

/-- A process. -/
structure Process where
  id : ProcessId
  parent : ProcessId
  directory : Place
  descriptors : List (Descriptor × Opened)
  /-- The permissions that new files do not get. -/
  mask : Nat
  /-- The limits that were changed. -/
  limits : List (Resource × Limit)
  ignored : List Nat
  caught : List Nat
  /-- The signals that were noted. They break off what it waits for. -/
  noted : List Nat
  stopped : Bool
  /-- The signal that ends it as soon as it has its turn. -/
  doomed : Option Nat
  /-- When its sleep ends. -/
  wakes : Option Nat
  /-- How much of what it is writing has been written. -/
  progress : Nat
  activity : Activity

/-- What processes share, and the processes. -/
structure World where
  tree : Tree
  handles : Array Handle
  pipes : Array Pipe
  processes : List Process
  clock : Nat
  nextId : ProcessId

namespace Process

/-- Whether a process has not ended. -/
def isAlive (p : Process) : Bool :=
  match p.activity with
  | .ended _ => false
  | _ => true

/-- What a descriptor leads to, if it is open. -/
def opened? (p : Process) (d : Descriptor) : Option Opened :=
  (p.descriptors.find? (·.1 == d)).map (·.2)

/-- The first descriptor that is free from a number on. -/
def freeFrom (p : Process) (least : Descriptor) : Descriptor :=
  (((List.range (p.descriptors.length + 1)).map (least + ·)).find? fun d =>
    (p.opened? d).isNone).getD least

/-- The limit of a resource. -/
def limit (p : Process) (r : Resource) : Limit :=
  ((p.limits.find? (·.1 == r)).map (·.2)).getD (.usual r)

/-- The first descriptor that is free from a number on, if it is within the limit. -/
def freeDescriptor (p : Process) (least : Descriptor) : Except IoError Descriptor :=
  let d := p.freeFrom least
  if (p.limit .descriptors).allows (d + 1) then .ok d else .error .tooManyOpenFiles

/-- Lets a descriptor lead to a handle, or shuts it. -/
def withDescriptor (p : Process) (d : Descriptor) (opened : Option Opened) : Process :=
  { p with descriptors :=
      (opened.toList.map (d, ·)) ++ p.descriptors.filter (·.1 != d) }

/-- What a process does at a signal. -/
def disposition (p : Process) (signal : Nat) : Disposition :=
  if p.caught.contains signal then .caught
  else if p.ignored.contains signal then .ignored
  else .usual

/-- Lets a process do something else at a signal. -/
def arrange (p : Process) (signal : Nat) (d : Disposition) : Process :=
  let ignored := p.ignored.filter (· != signal)
  let caught := p.caught.filter (· != signal)
  match d with
  | .usual => { p with ignored, caught }
  | .ignored => { p with ignored := signal :: ignored, caught }
  | .caught => { p with ignored, caught := signal :: caught }

end Process

namespace World

/-- A process by its number. -/
def process? (w : World) (id : ProcessId) : Option Process := w.processes.find? (·.id == id)

/-- Changes a process. -/
def change (w : World) (id : ProcessId) (f : Process → Process) : World :=
  { w with processes := w.processes.map fun p => if p.id == id then f p else p }

/-- Takes a process away. -/
def remove (w : World) (id : ProcessId) : World :=
  { w with processes := w.processes.filter (·.id != id) }

/-- What a descriptor of a process leads to. -/
def handle? (w : World) (p : Process) (d : Descriptor) : Option (Nat × Handle) := do
  let opened ← p.opened? d
  let handle ← w.handles[opened.handle]?
  pure (opened.handle, handle)

/-- Changes a handle. -/
def changeHandle (w : World) (number : Nat) (f : Handle → Handle) : World :=
  { w with handles := w.handles.modify number f }

/-- Adds a handle and opens it under a descriptor. -/
def openAt (w : World) (p : Process) (d : Descriptor) (handle : Handle) : World :=
  { w with handles := w.handles.push handle }.change p.id
    (·.withDescriptor d (some ⟨w.handles.size, false⟩))

/-- Whether some process has a pipe open, to read from it or to write to it. -/
def hasEnd (w : World) (pipe : Nat) (reads : Bool) : Bool :=
  w.processes.any fun p => p.descriptors.any fun (_, opened) =>
    match w.handles[opened.handle]? with
    | some h => h.target == .pipe pipe && (if reads then h.reads else h.writes)
    | none => false

/-! ### Endings and signals -/

/-- The process that takes over the children of those that ended. -/
def initialId : ProcessId := 1

/-- Lets a process note a signal. -/
def note (w : World) (id : ProcessId) (signal : Nat) : World :=
  w.change id fun p =>
    { p with noted := if p.noted.contains signal then p.noted else p.noted ++ [signal] }

/-- Ends a process: its descriptors are shut, its children have no parent any more, and its parent
is told. -/
def finish (w : World) (id : ProcessId) (ending : Ending) : World :=
  match w.process? id with
  | none => w
  | some p =>
    let w := w.change id fun p =>
      { p with descriptors := [], wakes := none, activity := .ended ending }
    let orphaned := w.processes.map fun q =>
      if q.parent == id then { q with parent := initialId } else q
    let w := { w with processes := orphaned.filter fun q => q.isAlive || q.parent != initialId }
    match w.process? p.parent with
    | some parent =>
      if parent.disposition Signal.child == .caught then w.note p.parent Signal.child else w
    | none => w

/-- Ends a process by a signal: at once if it sent the signal itself, else when it has its turn. -/
def doom (w : World) (sender : ProcessId) (p : Process) (signal : Nat) : World :=
  if p.id == sender then w.finish p.id (.killed signal)
  else w.change p.id fun p => { p with doomed := some signal }

/-- Lets a signal come to a process. -/
def post (w : World) (sender : ProcessId) (p : Process) (signal : Nat) : World :=
  if signal = Signal.kill then w.doom sender p signal
  else if signal = Signal.stop then w.change p.id fun p => { p with stopped := true }
  else
    let w := if signal = Signal.resume then w.change p.id fun p => { p with stopped := false }
      else w
    match p.disposition signal with
    | .ignored => w
    | .caught => w.note p.id signal
    | .usual =>
      if Signal.isHarmless signal then w
      else if Signal.stops signal then w.change p.id fun p => { p with stopped := true }
      else w.doom sender p signal

end World

end Assay.Kernel
