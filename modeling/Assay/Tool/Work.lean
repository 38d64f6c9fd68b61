import Assay.Kernel.Task
import Assay.Tool.Argument
import Assay.Tool.Name

/-!
# The work of tools

A tool does its work as a process: it asks the kernel, shows its results on the standard output, and
complains on the standard error output, where every message begins with the name that the tool was
called by.
-/

namespace Assay.Tool

open Kernel (Act Descriptor Request Task)
open Text (Octets)

/-- The bytes of a text. -/
def octets (s : String) : Octets := Text.Octets.ofString s

/-- A part of the work of a tool that was called by a name. -/
abbrev Work := ReaderT Octets Act

namespace Work

/-- Asks the kernel. -/
def ask (r : Request) : Work r.Reply := fun _ => Act.ask r

/-- Ends the tool. -/
def quit {α : Type} (code : Nat) : Work α := fun _ => Act.exit code

/-- Writes text to a descriptor. -/
def write (d : Descriptor) (text : Octets) : Work (Except IoError Unit) :=
  ask (.write d (Text.Octets.toBytes text))

/-- Complains. -/
def complain (message : Octets) : Work Unit := do
  let _ ← write 2 ((← read) ++ octets ": " ++ message ++ ['\n'])

/-- Complains of an error. -/
def complainOf (subject : Octets) (e : IoError) : Work Unit :=
  complain (subject ++ octets (": " ++ e.reason))

/-- Complains, and ends the tool. -/
def fail {α : Type} (code : Nat) (message : Octets) : Work α := do
  complain message
  quit code

/-- Complains of an error, and ends the tool. -/
def failOf {α : Type} (code : Nat) (subject : Octets) (e : IoError) : Work α := do
  complainOf subject e
  quit code

/-- Shows text; if that cannot be done, the tool ends with a code. -/
def put (failure : Nat) (text : Octets) : Work Unit := do
  unless text.isEmpty do
    match ← write 1 text with
    | .ok () => pure ()
    | .error e => failOf failure (octets "write error") e

/-- Tells where to read about the tool. -/
def hint : Work Unit := do
  let _ ← write 2 (octets "Try '" ++ (← read) ++ octets " --help' for more information.\n")

/-- Complains of the way in which the tool was called, and ends it. -/
def misuse {α : Type} (message : Octets) : Work α := do
  complain message
  hint
  quit 1

/-- The number of bytes that are read at once. -/
def chunk : Nat := 131072

/-- Reads a descriptor to its end, piece by piece; `step` tells whether to go on. -/
def forEachPiece {σ : Type} (d : Descriptor) (step : σ → Bytes → Work (σ × Bool)) :
    Nat → σ → Work (σ × Option IoError)
  | 0, s => pure (s, none)
  | n + 1, s => do
    match ← ask (.read d chunk) with
    | .error e => pure (s, some e)
    | .ok [] => pure (s, none)
    | .ok data =>
      let (s, goesOn) ← step s data
      if goesOn then forEachPiece d step n s else pure (s, none)

/-- The pieces after which reading is given up. -/
def pieceLimit : Nat := 1000000000

/-- All that can be read from a descriptor. -/
def readAll (d : Descriptor) : Work (Bytes × Option IoError) := do
  let (pieces, e) ← forEachPiece d (fun pieces data => pure (data :: pieces, true)) pieceLimit []
  pure (pieces.reverse.flatten, e)

end Work

/-- The task of a tool. -/
def task (work : List Octets → Work Nat) (arguments : List Octets) : Task :=
  work arguments.tail (arguments.head?.getD []) .exit

end Assay.Tool
