import Assay.Footprint
import Assay.Machine
import Assay.Program

/-!
# The command line

The outermost layer. It copies the files that a command may look at into a machine in memory, runs
the program on it, shows what the program leaves behind, and carries the changes of files out.
Whatever a run decides is decided by `Program.run`. The machine runs scripts and its own programs;
other executables are known to it, but it refuses to start them.
-/

namespace Assay

namespace Main

/-- The environment variables that children get. -/
def inherited : List String := ["PATH", "HOME", Golden.compilerVariable, Program.logVariable]

/-- The search path where the environment has none. -/
def usualSearchPath : String := "/usr/bin:/bin"

/-- Whether a file begins like one that can be executed: as a script, or as a program of another
machine. -/
def beginsExecutable (contents : Bytes) : Bool :=
  [0x23, 0x21].isPrefixOf contents || [0x7F, 0x45, 0x4C, 0x46].isPrefixOf contents

/-- The system's number for a file that is a directory. -/
def directoryError : UInt32 := 21

/-- The change that makes what stands at a path. -/
def fetch (path : Path) : IO (Option Files.Change) := do
  try
    let contents := (← IO.FS.readBinFile path.text).toList
    pure (some (.write path contents (beginsExecutable contents)))
  catch
    | .inappropriateType _ code _ =>
      pure (if code = directoryError then some (.makeDirectory path) else none)
    | _ => pure none

/-- Copies what stands at paths, unless the machine has something there. -/
def supply (m : Machine) (paths : List Path) : IO Machine :=
  paths.foldlM (fun m path => do
    if m.files.exists? path then pure m
    else
      let change ← fetch path
      pure { m with files := m.files.applyAll change.toList }) m

/-- Carries out a change. -/
def carryOut : Files.Change → IO Unit
  | .write path contents executable => do
    IO.FS.writeBinFile path.text (ByteArray.mk contents.toArray)
    if executable then
      let all : IO.AccessRight := ⟨true, true, true⟩
      let others : IO.AccessRight := ⟨true, false, true⟩
      IO.setAccessRights path.text ⟨all, others, others⟩
  | .makeDirectory path => IO.FS.createDirAll path.text
  | .remove path => IO.FS.removeFile path.text

/-- The files of a machine that works in a directory. -/
def filesIn (directory : Path) : Files :=
  let files := Machine.freshFiles.applyAll [.makeDirectory directory]
  match files.lookup directory with
  | .ok (place, _) => { files with directory := place }
  | .error _ => files

/-- The machine on which a command line is run. -/
def machine (environment : Program.Environment) (arguments : List String) : IO Machine := do
  let settings ← inherited.filterMapM fun name => do
    pure ((← IO.getEnv name).map (name, ·))
  let searchPath := (← IO.getEnv "PATH").getD usualSearchPath
  let directory : Path := ⟨(← IO.currentDir).toString⟩
  let m : Machine := ⟨filesIn directory, ("PATH", searchPath) :: settings⟩
  match CommandLine.parse arguments with
  | .error _ => pure m
  | .ok command =>
    let m ← supply m command.selection.lists
    let (tests, _) := command.selection.collect (Machine.host none) (.start m .unlimited)
    let directories := (Text.split ':' searchPath.toList).map fun dir => ⟨String.ofList dir⟩
    supply m (command.footprint directories environment.compiler (tests.toOption.getD []))

end Main

end Assay

/-- Runs the program on the arguments. -/
def main (arguments : List String) : IO UInt32 := do
  let environment : Assay.Program.Environment :=
    ⟨← IO.getEnv Assay.Golden.compilerVariable, ← IO.getEnv Assay.Program.logVariable⟩
  let machine ← Assay.Main.machine environment arguments
  let (ending, after) :=
    Assay.Program.run (Assay.Machine.host none) environment arguments machine
  for change in after.files.changesSince machine.files do
    try Assay.Main.carryOut change catch e => IO.eprintln e
  let stdout ← IO.getStdout
  stdout.write (ByteArray.mk ending.stdout.toArray)
  stdout.flush
  IO.eprint ending.stderr
  pure (UInt32.ofNat ending.exitCode.toNat)
