import Assay.Files.Tree

/-!
# What is executed

To execute a path is to find a program of the machine and the arguments that it gets. A file that
begins with the mark of programs names one itself. A file whose first line names an interpreter is
executed by executing the interpreter, with the rest of that line as one argument and then the
file's path in front of the arguments; every other file has a format that cannot be executed. Nor
can a file that somebody is writing to.

A name without `/` is looked for in the directories of the search path. A directory in which it is
missing is passed over, and so is one in which it may not be executed; but then that is the error,
unless it is found further on.
-/

namespace Assay.Kernel

open Files (Place Tree Node)
open Text (Octets)

/-- A program of the machine, and its arguments, its own name in front. -/
structure Image where
  program : String
  arguments : List Octets
deriving DecidableEq, Repr

namespace Image

/-- The bytes at the head of a file that tell how it is executed. -/
def headLength : Nat := 256

/-- The number of interpreters that may be named in a row. -/
def interpreterLimit : Nat := 5

/-- Whether a byte separates an interpreter from its argument. -/
def isGap (c : Char) : Bool := c == ' ' || c == '\t'

/-- Whether a byte ends the name of an interpreter. -/
def endsName (c : Char) : Bool := isGap c || c == '\x00'

/-- A text up to its first byte 0. -/
def untilNul (s : Octets) : Octets := s.takeWhile (· != '\x00')

/-- The interpreter that a line names, and the argument for it. -/
def interpreterOf? (line : Octets) : Option (Octets × Option Octets) :=
  let body := ((line.reverse.dropWhile isGap).reverse).dropWhile isGap
  let name := body.takeWhile (!endsName ·)
  match body.drop name.length with
  | c :: rest =>
    some (name, if isGap c then some (untilNul (rest.dropWhile isGap)) else none)
  | [] => if name.isEmpty then none else some (name, none)

/-- The interpreter that the head of a file names, and the argument for it. A line that does not end
within the head is cut off before the last byte of it, but the name must end within it. -/
def interpreter? (contents : Array UInt8) : Option (Octets × Option Octets) :=
  let head := Text.Octets.ofBytes (contents.extract 0 headLength).toList
  match head ++ List.replicate (headLength - head.length) '\x00' with
  | '#' :: '!' :: rest =>
    let line := rest.takeWhile fun c => c != '\n' && c != '\x00'
    if rest[line.length]? = some '\n' then interpreterOf? line
    else if (rest.dropWhile isGap).any endsName then interpreterOf? rest.dropLast
    else none
  | _ => none

/-- Finds what is executed when a path is. -/
def load (tree : Tree) (isWritten : Place → Bool) (directory : Place) :
    Nat → (path : Octets) → (arguments : List Octets) → Except IoError Image
  | 0, _, _ => .error .linkLoop
  | n + 1, path, arguments => do
    match ← tree.lookupOctets directory true path with
    | (place, .file contents mode _) =>
      if !Node.anyExecute mode then throw .access
      if isWritten place then throw .busy
      match Node.programOf? (contents.extract 0 headLength).toList, interpreter? contents with
      | some name, _ => pure ⟨name, arguments⟩
      | none, none => throw .execFormat
      | none, some ([], _) => throw .access
      | none, some (name, argument) =>
        load tree isWritten directory n name (name :: argument.toList ++ path :: arguments.tail)
    | _ => throw .access

/-- Executes a path. `isWritten` tells which files somebody has open to write to them. -/
def ofPath (tree : Tree) (isWritten : Place → Bool) (directory : Place) (path : Octets)
    (arguments : List Octets) : Except IoError Image :=
  load tree isWritten directory (interpreterLimit + 1) path arguments

/-- Whether an error lets the search go on. -/
def passesOver (e : IoError) : Bool := e == .noEntry || e == .notDirectory || e == .access

/-- Looks for a name in directories. `refused` tells whether it was found where it may not be
executed. -/
def searchIn (tree : Tree) (directory : Place) (name : Octets) (arguments : List Octets) :
    (refused : Bool) → List Octets → Except IoError Image
  | refused, [] => .error (if refused then .access else .noEntry)
  | refused, dir :: dirs =>
    let path := if dir = [] then name else dir ++ '/' :: name
    match ofPath tree (fun _ => false) directory path (name :: arguments) with
    | .ok image => .ok image
    | .error e =>
      if passesOver e then searchIn tree directory name arguments (refused || e == .access) dirs
      else .error e

/-- Executes a name: as a path if it holds a `/`, else by the search path. -/
def find (tree : Tree) (directory : Place) (searchPath name : Octets)
    (arguments : List Octets) : Except IoError Image :=
  if name = [] then .error .noEntry
  else if name.contains '/' then ofPath tree (fun _ => false) directory name (name :: arguments)
  else if Tree.nameLimit < name.length then .error .nameTooLong
  else searchIn tree directory name arguments false (Text.split ':' searchPath)

end Image

end Assay.Kernel
