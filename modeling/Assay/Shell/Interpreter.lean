import Assay.Kernel.Signal
import Assay.Kernel.Task
import Assay.Shell.Number
import Assay.Shell.Setting
import Assay.Shell.Token
import Assay.Text.Decimal
import Assay.Text.Lines

/-!
# The state of a shell

An `Interpreter` is what a shell keeps in mind while it carries commands out: variables, functions,
settings, arguments, jobs, what to do at signals. A `Run` is a part of carrying a script out: it
asks the kernel, changes the interpreter, and may break off by a `Jump`.

Repetitions and functions are not left by jumps but by skipping: `skip` tells that commands are
passed over until whatever they leave has ended.
-/

namespace Assay.Shell

open Kernel (Act Descriptor Ending ProcessId Request)
open Text (Octets)

/-- A variable. -/
structure Variable where
  value : Option Octets
  exported : Bool
  readOnly : Bool
  /-- Whether it is kept, with its marks, when its value is taken away. -/
  lasting : Bool
deriving DecidableEq, Repr

namespace Variable

/-- A variable of the shell itself. -/
def own (value : Octets) : Variable := ⟨some value, false, false, true⟩

end Variable

/-- A function, with the documents of its body. -/
structure Function where
  body : Command
  documents : Array Document

/-- A member of a job: a process, and how it ended. -/
structure Member where
  id : ProcessId
  ending : Option Ending
deriving DecidableEq, Repr

/-- A pipeline that was started. -/
structure Job where
  number : Nat
  members : List Member
  /-- Whether its status was asked for. -/
  waited : Bool
deriving DecidableEq, Repr

namespace Job

/-- Whether all members have ended. -/
def isDone (j : Job) : Bool := j.members.all (·.ending.isSome)

/-- The status of a job: that of its last member. -/
def status (j : Job) : Nat :=
  match j.members.getLast?.bind (·.ending) with
  | some ending => ending.status
  | none => 0

end Job

/-- The arguments of a script or function, and how far its options were gone through. -/
structure Parameters where
  arguments : List Octets
  /-- The number of the argument that is next. -/
  optionIndex : Int
  /-- How many letters of the argument before that one were read, where some are left. -/
  optionOffset : Option Nat

namespace Parameters

/-- Arguments of which no options were read. -/
def of (arguments : List Octets) : Parameters := ⟨arguments, 1, none⟩

end Parameters

/-- What commands are passed over for. -/
inductive Skip where
  /-- A repetition is left. -/
  | leave
  /-- The next turn of a repetition begins. -/
  | again
  /-- A function or a file is left with a status. -/
  | function
  /-- A function or a file is left with the status there was. -/
  | functionAsIs
deriving DecidableEq, Repr

/-- What a change of descriptors has to undo: where each one led before. A descriptor that was shut
has none. -/
abbrev SavedDescriptors := List (Descriptor × Option Descriptor)

/-- What a local variable hides. -/
inductive Hidden where
  | variable (name : Octets) (hides : Option Variable)
  | settings (on : List Setting)

/-- A command that was found on the search path, at the place of a number. -/
structure Found where
  index : Nat
  /-- Whether it has to be looked for again. -/
  stale : Bool

/-- The state of a shell. -/
structure Interpreter where
  /-- The name by which messages begin. -/
  name : Octets
  table : List (Octets × Variable)
  functions : List (Octets × Function)
  aliases : List (Octets × Octets)
  settings : List Setting
  parameters : Parameters
  /-- The command of the shell that is being carried out, as messages tell it. -/
  command : Option Octets
  /-- The line that messages tell. -/
  line : Nat
  /-- The line up to which the script at hand was read. -/
  readLine : Nat
  status : Nat
  /-- The status of the last output that was put in a place of the command at hand. -/
  outputStatus : Nat
  /-- The status with which the shell will end, where that is settled. -/
  savedStatus : Option Nat
  skip : Option Skip
  skipCount : Nat
  loops : Nat
  locals : List (List Hidden)
  saved : List SavedDescriptors
  traps : List (Nat × Octets)
  pending : List Nat
  jobs : List Job
  /-- The process of `$!`. -/
  lastJob : Option ProcessId
  /-- The process of `$$`. -/
  rootId : ProcessId
  directory : Octets
  found : List (Octets × Found)
  /-- Where the commands that are carried out are shown. -/
  traceTo : Descriptor
  tracing : Bool
  documents : Array Document
  /-- What the command at hand wrote, the last part first. -/
  written : List Octets
  /-- Whether this is a copy of another shell. -/
  isCopy : Bool

/-- What breaks off carrying commands out. -/
inductive Jump where
  /-- A mistake. -/
  | mistake
  /-- The shell is told to end. -/
  | exit
  /-- The shell has nothing more to do. -/
  | finish
deriving DecidableEq, Repr

/-- A part of carrying a script out. -/
abbrev Run := ExceptT Jump (StateT Interpreter Act)

namespace Run

/-- Asks the kernel. -/
def ask (r : Request) : Run r.Reply := fun s k => .call r fun reply => k (.ok reply, s)

/-- Goes on in one copy of the process with a task, and here with its number. -/
def forkTask (child : Interpreter → Kernel.Task) : Run ProcessId := fun s k =>
  .fork (child s) fun id => k (.ok id, s)

/-- Ends the process. -/
def exitProcess {α : Type} (status : Nat) : Run α := fun _ _ => .exit status

/-- A text as octets. -/
def octets (s : String) : Octets := Text.Octets.ofString s

/-- Writes to a descriptor, and tells whether that went well. -/
def emit (d : Descriptor) (text : Octets) : Run Bool := do
  if text.isEmpty then return true
  return (← ask (.write d (Text.Octets.toBytes text))).toBool

/-- Writes a message. -/
def complain (message : Octets) : Run Unit := do
  let s ← get
  let line := Text.digits s.line
  let command := (s.command.map (· ++ octets ": ")).getD []
  let _ ← emit 2 (s.name ++ octets ": " ++ line ++ octets ": " ++ command ++ message ++ ['\n'])

/-- Adds to what the command at hand writes. -/
def say (text : Octets) : Run Unit := modify fun s => { s with written := text :: s.written }

/-- Writes what the command at hand has to write. -/
def flush : Run Bool := do
  let text := (← get).written.reverse.flatten
  modify fun s => { s with written := [] }
  emit 1 text

/-- Ends with a message, for a mistake. -/
def fail {α : Type} (message : Octets) : Run α := do
  modify fun s => { s with status := 2 }
  complain message
  let _ ← flush
  throw .mistake

/-- Ends with a message that is a plain text. -/
def failPlain {α : Type} (message : String) : Run α := fail (octets message)

/-- Ends because a text should be a number. -/
def failNumber {α : Type} (s : Octets) : Run α := fail (octets "Illegal number: " ++ s)

/-- The number of a text, which must be one. -/
def number (s : Octets) : Run Nat :=
  match Numeral.natural? s with
  | some n => pure n
  | none => failNumber s

/-- Sets the status. -/
def setStatus (status : Nat) : Run Unit := modify fun s => { s with status }

/-- Whether a setting is on. -/
def isOn (setting : Setting) : Run Bool := return (← get).settings.contains setting

end Run

/-! ### Variables -/

namespace Interpreter

/-- A variable by its name. -/
def known? (s : Interpreter) (name : Octets) : Option Variable :=
  (s.table.find? (·.1 == name)).map (·.2)

/-- The value of a variable. -/
def value? (s : Interpreter) (name : Octets) : Option Octets := (s.known? name).bind (·.value)

/-- The state with another variable of a name, or none. -/
def withVariable (s : Interpreter) (name : Octets) (v : Option Variable) : Interpreter :=
  { s with table := (v.toList.map (name, ·)) ++ s.table.filter (·.1 != name) }

/-- The search path. -/
def searchPath (s : Interpreter) : Octets := (s.value? "PATH".toList).getD []

/-- The blanks that separate fields where nothing else is said. -/
def usualSeparators : Octets := [' ', '\t', '\n']

/-- The characters that separate fields. -/
def separators (s : Interpreter) : Octets := (s.value? "IFS".toList).getD usualSeparators

/-- Whether something is done at signals. -/
def hasTraps (s : Interpreter) : Bool := s.traps.any fun (_, action) => !action.isEmpty

/-- The variables that programs get, by name. -/
def environment (s : Interpreter) : List Kernel.Binding :=
  s.table.filterMap fun (name, v) => if v.exported then v.value.map (name, ·) else none

end Interpreter

namespace Run

/-- The beginning of a text up to a `=`. -/
def untilEquals (s : Octets) : Octets := s.takeWhile (· != '=')

/-- What follows when a variable gets a value. -/
def noteChange (name : Octets) (value : Octets) : Run Unit := do
  if name == "PATH".toList then modify fun s => { s with found := [] }
  else if name == "OPTIND".toList then
    let n ← number value
    modify fun s => { s with
      parameters := { s.parameters with optionIndex := if n = 0 then 1 else n
                                        optionOffset := none } }

/-- Gives a variable a value, or takes its value away, and sets marks on it. -/
def setMarked (name : Octets) (value : Option Octets) (exports locks lasting notes : Bool) :
    Run Unit := do
  let s ← get
  let exports := exports || s.settings.contains .allexport
  match s.known? name with
  | some v =>
    if v.readOnly then fail (name ++ octets ": is read only")
    if notes then noteChange name (value.getD (if name == "OPTIND".toList then ['1'] else []))
    let keeps := exports || locks || lasting || v.lasting
    modify fun s => s.withVariable name <|
      if value.isNone && !keeps then none
      else some ⟨value, v.exported || exports, v.readOnly || locks, v.lasting || lasting⟩
  | none =>
    if value.isSome || exports || locks || lasting then
      modify fun s => s.withVariable name (some ⟨value, exports, locks, lasting⟩)

/-- Refuses a name that no variable can have. -/
def checkName (text : Octets) : Run Octets := do
  let name := untilEquals text
  if isName name then pure name else fail (name ++ octets ": bad variable name")

/-- Sets a variable by name. -/
def setVariable (name : Octets) (value : Option Octets) (exports locks : Bool) : Run Unit := do
  let name ← checkName name
  setMarked name value exports locks false true

/-- Gives a variable a value. -/
def assign (name value : Octets) : Run Unit := setVariable name (some value) false false

/-- Makes a variable local to the function that is being carried out. A text with `=` gives it a
value too; `-` stands for the settings. -/
def makeLocal (text : Octets) (exports : Bool) : Run Unit := do
  let hide (h : Hidden) : Run Unit := modify fun s =>
    match s.locals with
    | frame :: frames => { s with locals := (h :: frame) :: frames }
    | [] => s
  if text == ['-'] then hide (.settings (← get).settings)
  else
    let name := untilEquals text
    let value := if name.length < text.length then some (text.drop (name.length + 1)) else none
    let old := (← get).known? name
    match old with
    | none =>
      if value.isNone then let _ ← checkName name
      setMarked name value exports false true true
    | some v =>
      modify fun s => s.withVariable name (some { v with lasting := true })
      if value.isSome then setMarked name value exports false false true
    hide (.variable name old)

/-- Forgets the local variables of the innermost function. -/
def endLocals : Run Unit := do
  match (← get).locals with
  | [] => pure ()
  | frame :: frames =>
    modify fun s => { s with locals := frames }
    frame.forM fun
      | .settings on => modify fun s => { s with settings := on }
      | .variable name hides => do
        match hides.bind (·.value) with
        | some value =>
          if name == "OPTIND".toList || name == "PATH".toList then noteChange name value
        | none => pure ()
        modify fun s => s.withVariable name hides

/-! ### Jobs -/

/-- The first number that no job has. A job that has ended and was asked for gives its number
free. -/
def newJob (members : List Member) : Run Nat := do
  let kept (s : Interpreter) : List Job :=
    match (s.jobs.reverse.mergeSort fun a b => a.number ≤ b.number).find? fun j =>
      j.isDone && j.waited with
    | some done => s.jobs.filter (·.number != done.number)
    | none => s.jobs
  let s ← get
  let jobs := kept s
  let number := ((List.range (jobs.length + 1)).map (· + 1)).find? fun n =>
    !jobs.any (·.number == n)
  let number := number.getD 1
  modify fun s => { s with jobs := ⟨number, members, false⟩ :: jobs }
  pure number

/-- Changes a job. -/
def changeJob (number : Nat) (f : Job → Job) : Run Unit :=
  modify fun s => { s with jobs := s.jobs.map fun j => if j.number == number then f j else j }

/-- Forgets a job. -/
def forgetJob (number : Nat) : Run Unit :=
  modify fun s => { s with jobs := s.jobs.filter (·.number != number) }

end Run

end Assay.Shell
