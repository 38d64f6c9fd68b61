import Assay.Files.Tree
import Assay.Kernel.Limit

/-!
# What processes ask for

A process works by asking the kernel for things: to read and write, to open and shut files, to look
at them, to start other processes, to wait for them and to send them signals. `Request` is what can
be asked, and `Request.Reply` what is answered. A reply may take its time: a read waits for data, a
wait for the end of a child, a sleep for the clock.

Starting a copy of the process and ending are no requests, for they have no reply that only one
process gets; they are forms of `Task`.
-/

namespace Assay.Kernel

open Text (Octets)

/-- The number of a process. -/
abbrev ProcessId := Nat

/-- A number under which a process has a file open. -/
abbrev Descriptor := Nat

/-- A span of time, in millionths of a second. -/
abbrev Duration := Nat

/-- How a file is opened. -/
structure Opening where
  reads : Bool
  writes : Bool
  /-- Whether everything is written to the end. -/
  appends : Bool
  /-- Whether the file is made where it is missing. -/
  creates : Bool
  /-- Whether the file must be missing. -/
  exclusive : Bool
  /-- Whether what the file holds is lost. -/
  truncates : Bool
deriving DecidableEq, Repr

namespace Opening

/-- To read. -/
def reading : Opening := ⟨true, false, false, false, false, false⟩

/-- To write anew. -/
def writing : Opening := ⟨false, true, false, true, false, true⟩

/-- To write a file that is not there yet. -/
def creating : Opening := ⟨false, true, false, true, true, false⟩

/-- To write to what is there already. -/
def overwriting : Opening := ⟨false, true, false, false, false, true⟩

/-- To write to the end. -/
def appending : Opening := ⟨false, true, true, true, false, false⟩

/-- To read and write. -/
def both : Opening := ⟨true, true, false, true, false, false⟩

end Opening

/-- What a file is. -/
inductive FileKind where
  | regular
  | directory
  | pipe
  | device
  | link
deriving DecidableEq, Repr

/-- Which file it is: one that stands at a place, or a pipe. -/
inductive Identity where
  | place (place : Files.Place)
  | pipe (number : Nat)
deriving DecidableEq, Repr

/-- What is known of a file without reading it. -/
structure FileStatus where
  kind : FileKind
  identity : Identity
  /-- The number of places at which the file stands. -/
  links : Nat
  size : Nat
  mode : Nat
  modified : Nat
deriving DecidableEq, Repr

/-- How a process ended. -/
inductive Ending where
  | exited (code : Nat)
  | killed (signal : Nat)
deriving DecidableEq, Repr, Inhabited

namespace Ending

/-- The exit code that is reported: a signal that killed the process is negated. -/
def exitCode : Ending → Int
  | exited code => code
  | killed signal => -signal

/-- The status that a shell sees. -/
def status : Ending → Nat
  | exited code => code
  | killed signal => 128 + signal

end Ending

/-- What a process does when a signal comes. -/
inductive Disposition where
  /-- What the signal does by itself. -/
  | usual
  | ignored
  /-- It is noted, and what the process waits for is broken off. -/
  | caught
deriving DecidableEq, Repr

/-- A variable of the environment. -/
abbrev Binding := Octets × Octets

/-- What a process can ask for. -/
inductive Request where
  /-- Nothing, so that others get on. -/
  | pause
  | read (d : Descriptor) (count : Nat)
  | write (d : Descriptor) (data : Bytes)
  | open (path : Octets) (how : Opening) (mode : Nat)
  | close (d : Descriptor)
  /-- Lets a descriptor lead where another one does. -/
  | duplicate (d onto : Descriptor)
  /-- The same for the first one that is free from a number on. It is shut when a program is
  executed. -/
  | duplicateAbove (d least : Descriptor)
  | makePipe
  | status (path : Octets) (follows : Bool)
  | statusOf (d : Descriptor)
  /-- The place of the next byte. -/
  | position (d : Descriptor)
  /-- Goes on at another place. -/
  | seek (d : Descriptor) (offset : Nat)
  /-- The names in a directory, in order, or in the order in which they came there. -/
  | entries (path : Octets) (byAge : Bool)
  | changeDirectory (path : Octets)
  | workingDirectory
  | makeDirectory (path : Octets) (mode : Nat)
  | removeFile (path : Octets)
  | makeLink (target path : Octets)
  /-- Lets a file stand at another path too. -/
  | shareFile (path other : Octets) (follows : Bool)
  /-- Moves what stands at a path to another one. -/
  | rename (path other : Octets)
  | readLink (path : Octets)
  | setMode (path : Octets) (mode : Nat)
  | setModified (path : Octets) (time : Nat)
  /-- Sets the permissions that new files do not get. -/
  | setMask (mask : Nat)
  | limit (r : Resource)
  | setLimit (r : Resource) (l : Limit)
  /-- Becomes another program. There is a reply only if it fails. -/
  | execute (path : Octets) (arguments : List Octets) (environment : List Binding)
  /-- Waits for a child, or for any; or only asks. -/
  | await (child : Option ProcessId) (blocks : Bool)
  | send (target : Int) (signal : Nat)
  | arrange (signal : Nat) (disposition : Disposition)
  | disposition (signal : Nat)
  /-- Takes the signals that were noted. -/
  | takeSignals
  | sleep (duration : Duration)
  | now
  | ownId
  | parentId
deriving DecidableEq, Repr

/-- What is answered. -/
@[reducible] def Request.Reply : Request → Type
  | pause => Unit
  | read .. => Except IoError Bytes
  | write .. => Except IoError Unit
  | .open .. => Except IoError Descriptor
  | close _ => Except IoError Unit
  | duplicate .. => Except IoError Unit
  | duplicateAbove .. => Except IoError Descriptor
  | makePipe => Except IoError (Descriptor × Descriptor)
  | status .. => Except IoError FileStatus
  | statusOf _ => Except IoError FileStatus
  | position _ => Except IoError Nat
  | seek .. => Except IoError Unit
  | entries .. => Except IoError (List Octets)
  | changeDirectory _ => Except IoError Unit
  | workingDirectory => Octets
  | makeDirectory .. => Except IoError Unit
  | removeFile _ => Except IoError Unit
  | makeLink .. => Except IoError Unit
  | shareFile .. => Except IoError Unit
  | rename .. => Except IoError Unit
  | readLink _ => Except IoError Octets
  | setMode .. => Except IoError Unit
  | setModified .. => Except IoError Unit
  | setMask _ => Nat
  | limit _ => Limit
  | setLimit .. => Except IoError Unit
  | execute .. => IoError
  | await .. => Except IoError (Option (ProcessId × Ending))
  | send .. => Except IoError Unit
  | arrange .. => Unit
  | disposition _ => Disposition
  | takeSignals => List Nat
  | sleep _ => Except IoError Unit
  | now => Nat
  | ownId => ProcessId
  | parentId => ProcessId

end Assay.Kernel
