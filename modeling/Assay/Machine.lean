import Assay.Kernel.Schedule
import Assay.Machine.Layout
import Assay.Process
import Assay.Shell.Invocation
import Assay.Tool

/-!
# A machine in memory

A host that needs no operating system: files are kept in a tree, and what is launched is a program
of the machine or a script that names one, the shell first of all. So a run on it depends on nothing
but the files it is given.

A call that holds a byte 0 starts nothing. A child works in the harness's directory or in another
one, from which a program named by a relative path is then looked for too; its standard input is
empty. A launch lasts until the child has ended and nobody can write to its output any more.
-/

namespace Assay

open Kernel (Binding Ending Handle Image Process ProcessId Task World)

/-- A machine: its files, seen from the harness's working directory, and the environment. -/
structure Machine where
  files : Files
  environment : List (String × String)

namespace Machine

/-- What a program does, given its arguments and its environment. -/
abbrev Program := List Text.Octets → List Binding → Task

/-- The programs of a machine. -/
def programs : List (String × Program) :=
  ("dash", Shell.task) :: Tool.all.map fun (name, tool) => (name, fun arguments _ => tool arguments)

/-- The files of a machine on which nothing has been written yet. -/
def freshFiles : Files := ⟨layout (programs.map (·.1)), workDirectory⟩

/-! ### Launching -/

/-- Whether a text holds a byte 0. -/
def hasNul (s : String) : Bool := s.toList.contains '\x00'

/-- The error of a call that holds a byte 0. -/
def nulInCall : IoError := .custom .invalidInput "nul byte found in provided data"

/-- The place where a child works. -/
def place (dir : Option Path) (m : Machine) : Except IoError Files.Place :=
  match dir with
  | none => .ok m.files.directory
  | some dir =>
    match m.files.lookup dir with
    | .ok (place, .directory _) => .ok place
    | .ok _ => .error .notDirectory
    | .error e => .error e

/-- The search path. -/
def searchPath (m : Machine) : Text.Octets :=
  ((m.environment.find? (·.1 == "PATH")).map fun (_, v) => Text.Octets.ofString v).getD []

/-- Finds what a call executes, and where. -/
def find (dir : Option Path) (call : Call) (m : Machine) :
    Except IoError (Files.Place × Image) := do
  if hasNul call.program.text || call.arguments.any hasNul || dir.any (hasNul ·.text) then
    throw nulInCall
  let place ← m.place dir
  let image ← Image.find m.files.tree place m.searchPath (Text.Octets.ofString call.program.text)
    (call.arguments.map Text.Octets.ofString)
  pure (place, image)

/-- What begins when an image is executed. -/
def boot (image : Image) (environment : List Binding) : Task :=
  match programs.find? (·.1 == image.program) with
  | some (_, program) => program image.arguments environment
  | none => .exit 127

/-- The number of the harness's process. -/
def harnessId : ProcessId := 1000

/-- The number of a child's process. -/
def childId : ProcessId := harnessId + 1

/-- The pipe of a child's standard output. -/
def outputPipe : Nat := 0

/-- The pipe of a child's standard error. -/
def errorPipe : Nat := 1

/-- The handles of a child: it reads nothing and writes to two pipes. -/
def handles : Array Handle :=
  #[⟨.place (placeOf "/dev/null"), 0, true, false, false⟩,
    ⟨.pipe outputPipe, 0, false, true, false⟩, ⟨.pipe errorPipe, 0, false, true, false⟩]

/-- The process of a child. -/
def child (place : Files.Place) (image : Image) (m : Machine) : Process where
  id := childId
  parent := harnessId
  directory := place
  descriptors := (List.range handles.size).map fun d => (d, ⟨d, false⟩)
  mask := 0o022
  limits := []
  ignored := []
  caught := []
  noted := []
  stopped := false
  doomed := none
  wakes := none
  progress := 0
  activity := .ready <| boot image <| m.environment.map fun (name, value) =>
    (Text.Octets.ofString name, Text.Octets.ofString value)

/-- The time after every change of a file. -/
def clock (m : Machine) : Nat :=
  m.files.tree.entries.foldl (fun latest (_, node) =>
    match node with
    | .file _ _ modified => max latest (modified + 1)
    | _ => latest) 0

/-- The world in which a child begins. -/
def world (place : Files.Place) (image : Image) (m : Machine) : World where
  tree := m.files.tree
  handles := handles
  pipes := #[⟨.empty, 0, true⟩, ⟨.empty, 0, true⟩]
  processes := [m.child place image]
  clock := m.clock
  nextId := childId + 1

/-- How a child has ended, if it has. -/
def ending? (w : World) : Option Ending :=
  (w.process? childId).bind fun p =>
    match p.activity with
    | .ended ending => some ending
    | _ => none

/-- Whether a child has ended and nobody can write to its output any more. -/
def isOver (w : World) : Bool :=
  (ending? w).isSome && !w.hasEnd outputPipe false && !w.hasEnd errorPipe false

/-- What was written to a pipe. -/
def written (w : World) (pipe : Nat) : Bytes :=
  ((w.pipes[pipe]?).map (·.bytes.toList)).getD []

/-- What a child left behind. One that never ends is as good as killed. -/
def outputOf (w : World) : Output :=
  ⟨written w outputPipe, written w errorPipe,
    ((ending? w).getD (.killed Kernel.Signal.kill)).exitCode⟩

/-- Runs a program to its end. -/
def execute (place : Files.Place) (image : Image) (m : Machine) : Output × Machine :=
  let w := World.run boot isOver World.patience childId World.turnLength (m.world place image)
  (outputOf w, { m with files := { m.files with tree := w.tree } })

/-- Runs a call to its end. -/
def launch (dir : Option Path) (call : Call) (m : Machine) : Except LaunchError Output × Machine :=
  match m.find dir call with
  | .error e => (.error (.ofIo call.program e), m)
  | .ok (place, image) =>
    let (output, m) := m.execute place image
    (.ok output, m)

/-- The host whose children work in a directory, or where the harness does. -/
def host (dir : Option Path) : Host Machine where
  launch := launch dir
  readFile path m := m.files.read path
  logsExits := true

end Machine

end Assay
