import Assay.Shell.Redirection

/-!
# Finding commands

A command without `/` is a function, a command of the shell itself or a program on the search path.
Where a program was found is kept, as the place of its directory on the path; after a change of
directory it is looked for again.
-/

namespace Assay.Shell

open Kernel (Request)
open Text (Octets)

open Run

/-! ### Commands of the shell itself -/

/-- What marks a command of the shell. -/
structure OwnCommand where
  /-- Whether mistakes in it end the shell, and assignments in front of it last. -/
  special : Bool
  /-- Whether it is found before the search path is known. -/
  regular : Bool
  /-- Whether its arguments may be assignments. -/
  assigns : Bool
deriving DecidableEq, Repr

namespace OwnCommand

/-- The special commands. -/
def specialOnes : List String :=
  [".", ":", "break", "continue", "eval", "exec", "exit", "return", "set", "shift", "times", "trap",
    "unset"]

/-- The commands whose arguments may be assignments. -/
def assigningOnes : List String := ["export", "readonly", "local"]

/-- The other commands that are found before the search path is known. -/
def regularOnes : List String :=
  ["bg", "cd", "chdir", "command", "false", "fg", "getopts", "jobs", "kill", "read", "true",
    "umask", "unalias", "wait"]

/-- The commands that are found beside the search path. -/
def plainOnes : List String := ["[", "echo", "hash", "printf", "pwd", "test", "type", "ulimit"]

/-- The command of a name. -/
def ofName? (name : Octets) : Option OwnCommand :=
  let isAmong (names : List String) : Bool := names.any (·.toList == name)
  if isAmong specialOnes then some ⟨true, true, false⟩
  else if isAmong assigningOnes then some ⟨true, true, true⟩
  else if name == "alias".toList then some ⟨false, true, true⟩
  else if isAmong regularOnes then some ⟨false, true, false⟩
  else if isAmong plainOnes then some ⟨false, false, false⟩
  else none

end OwnCommand

/-- What a name stands for. -/
inductive Located where
  | nothing
  | own (command : OwnCommand)
  | function (f : Function)
  /-- A program: by its path, or in a directory of the search path and those after it. -/
  | program (index : Option Nat)

/-! ### Programs -/

/-- The path of a name in a directory of the search path. -/
def pathIn (directory name : Octets) : Octets :=
  if directory.isEmpty then name else directory ++ '/' :: name

/-- The search path where none is set. -/
def usualPath : Octets := octets "/usr/local/sbin:/usr/local/bin:/usr/sbin:/usr/bin:/sbin:/bin"

/-- Looks for a program of a name in directories, from the place of the first one on. Gives the
place where it was found, or the reason why it was not. -/
def searchDirectories (name : Octets) : (index : Nat) → (reason : IoError) → List Octets →
    Run (Except IoError Nat)
  | _, reason, [] => pure (.error reason)
  | index, reason, directory :: others => do
    match ← ask (.status (pathIn directory name) true) with
    | .ok status =>
      if status.kind == .regular && Files.Node.anyExecute status.mode then pure (.ok index)
      else searchDirectories name (index + 1) .access others
    | .error e =>
      let reason := if e == .noEntry || e == .notDirectory then reason else e
      searchDirectories name (index + 1) reason others

/-- Where a name was found before, unless it has to be looked for again. -/
def remembered? (s : Interpreter) (name : Octets) : Option Nat :=
  match s.found.find? (·.1 == name) with
  | some (_, f) => if f.stale then none else some f.index
  | none => none

/-- Looks for a program on a search path. What is found on the shell's own path is kept. -/
def searchProgram (name path : Octets) : Run (Except IoError Nat) := do
  let s ← get
  let isOwn := path == s.searchPath
  match if isOwn then remembered? s name else none with
  | some index => pure (.ok index)
  | none =>
    let result ← searchDirectories name 0 .noEntry (Text.split ':' path)
    if isOwn then
      modify fun s =>
        let others := s.found.filter (·.1 != name)
        match result with
        | .error _ => { s with found := others }
        | .ok index =>
          if others.length < s.found.length then
            { s with found := s.found.map fun (n, f) =>
                if n == name then (n, ⟨index, false⟩) else (n, f) }
          else { s with found := others ++ [(name, ⟨index, false⟩)] }
    pure result

/-- How far a name is looked for. -/
structure Scope where
  functions : Bool
  programs : Bool
  /-- Whether a message tells that nothing was found. -/
  complains : Bool
  /-- Whether a path must lead to something. -/
  checksPaths : Bool

/-- Finds what a name stands for. -/
def locate (scope : Scope) (path name : Octets) : Run Located := do
  if name.contains '/' then
    if scope.checksPaths && !(← ask (.status name true)).isOk then return .nothing
    return .program none
  let s ← get
  match if scope.functions then s.functions.find? (·.1 == name) else none with
  | some (_, f) => pure (.function f)
  | none =>
    match OwnCommand.ofName? name with
    | some command => pure (.own command)
    | none =>
      if !scope.programs then return .nothing
      match ← searchProgram name path with
      | .ok index => pure (.program (some index))
      | .error e =>
        if scope.complains then
          complain (name ++ octets (": " ++ reasonOf false "not found" e))
        pure .nothing

/-! ### Becoming a program -/

/-- The shell that carries out files which name no interpreter. -/
def scriptShell : Octets := octets "/bin/sh"

/-- The bytes at the head of a file that tell whether it is a script. -/
def scriptHead : Nat := 128

/-- Whether a byte never stands in the first line of a script. -/
def isStrange (c : Char) : Bool :=
  c < '\t' || '\x0f' < c && c < '\x1b' || '\x1b' < c && c < ' ' || c == '\x7f'

/-- Whether a file may be carried out as a script: whether its first line, as far as the head
reaches, looks like text. -/
def looksLikeScript (path : Octets) : Run Bool := do
  match ← ask (.open path .reading 0) with
  | .error _ => pure false
  | .ok d =>
    let head ← ask (.read d scriptHead)
    let _ ← ask (.close d)
    match head with
    | .error _ => pure false
    | .ok head => pure (!((Text.Octets.ofBytes head).takeWhile (· != '\n')).any isStrange)

/-- Becomes the program of a path. Gives the reason where that fails. -/
def tryExecute (path : Octets) (arguments : List Octets) : Run IoError := do
  let environment := (← get).environment
  let e ← ask (.execute path arguments environment)
  if e == .execFormat && path != scriptShell then
    if ← looksLikeScript path then
      ask (.execute scriptShell (scriptShell :: path :: arguments.tail) environment)
    else pure e
  else pure e

/-- Becomes the first program of a name that can be executed. -/
def tryDirectories (name : Octets) (arguments : List Octets) : (reason : IoError) → List Octets →
    Run IoError
  | reason, [] => pure reason
  | reason, directory :: others => do
    let e ← tryExecute (pathIn directory name) arguments
    let reason := if e == .noEntry || e == .notDirectory then reason else e
    tryDirectories name arguments reason others

/-- The status of a program that could not be executed. -/
def refusalStatus (e : IoError) : Nat :=
  if [IoError.linkLoop, .nameTooLong, .noEntry, .notDirectory].contains e then 127 else 126

/-- Becomes a program, or ends with a message. The program is looked for from a place of the search
path on. -/
def execute {α : Type} (arguments : List Octets) (path : Octets) (index : Nat) : Run α := do
  let name := arguments.head?.getD []
  let e ←
    if name.contains '/' then tryExecute name arguments
    else tryDirectories name arguments .noEntry ((Text.split ':' path).drop index)
  setStatus (refusalStatus e)
  complain (name ++ octets (": " ++ reasonOf false "not found" e))
  throw .finish

end Assay.Shell
