import Assay.Text.Decimal

/-!
# Signals

Signals are known by number. A shell also knows their names, and tells by a text of its own when one
ended a child. Most signals end the process that gets them; a few are passed over unless they are
waited for.
-/

namespace Assay.Kernel.Signal

/-- The names of the signals that have a meaning of their own, from 1 on. -/
def plainNames : List String :=
  ["HUP", "INT", "QUIT", "ILL", "TRAP", "ABRT", "BUS", "FPE", "KILL", "USR1", "SEGV", "USR2",
    "PIPE", "ALRM", "TERM", "16", "CHLD", "CONT", "STOP", "TSTP", "TTIN", "TTOU", "URG", "XCPU",
    "XFSZ", "VTALRM", "PROF", "WINCH", "IO", "PWR", "SYS"]

/-- The number of the first signal that is free for any use. -/
def firstFree : Nat := 34

/-- The number of the last signal. -/
def last : Nat := 64

/-- The names of the signals from 1 on. Those for any use are counted from the nearer end. -/
def names : List String :=
  plainNames ++ ["32", "33", "RTMIN"] ++
    (List.range 15).map (fun n => "RTMIN+" ++ Text.natural (n + 1)) ++
    (List.range 14).map (fun n => "RTMAX-" ++ Text.natural (14 - n)) ++ ["RTMAX"]

/-- What is told of a child that a signal ended, from 1 on. -/
def texts : List String :=
  ["Hangup", "Interrupt", "Quit", "Illegal instruction", "Trace/breakpoint trap", "Aborted",
    "Bus error", "Floating point exception", "Killed", "User defined signal 1",
    "Segmentation fault", "User defined signal 2", "Broken pipe", "Alarm clock", "Terminated",
    "Stack fault", "Child exited", "Continued", "Stopped (signal)", "Stopped",
    "Stopped (tty input)", "Stopped (tty output)", "Urgent I/O condition",
    "CPU time limit exceeded", "File size limit exceeded", "Virtual timer expired",
    "Profiling timer expired", "Window changed", "I/O possible", "Power failure",
    "Bad system call", "Unknown signal 32", "Unknown signal 33"]

/-- The signal of a terminal that breaks off what runs. -/
def interrupt : Nat := 2

/-- The signal of a terminal that ends what runs. -/
def quit : Nat := 3

/-- The signal of a division that cannot be carried out. -/
def arithmetic : Nat := 8

/-- The signal that always ends a process. -/
def kill : Nat := 9

/-- The signal of a write that nobody reads. -/
def pipe : Nat := 13

/-- The signal that ends a process unless it is told otherwise. -/
def term : Nat := 15

/-- The signal of a child that ended. -/
def child : Nat := 17

/-- The signal that lets a process that was stopped go on. -/
def resume : Nat := 18

/-- The signal that always stops a process. -/
def stop : Nat := 19

/-- The signal of a write that makes a file too large. -/
def fileSize : Nat := 25

/-- The name of a signal; the number 0 stands for the end of a shell. -/
def name (signal : Nat) : String :=
  if signal = 0 then "EXIT" else (names[signal - 1]?).getD (Text.natural signal)

/-- The signal of a number, or of a name if its number is not too small. Small letters count as
capital ones. -/
def ofText? (least : Nat) (s : List Char) : Option Nat :=
  let all := List.range (last + 1)
  if s ≠ [] ∧ s.all Char.isDigit then
    let n := s.foldl (fun n c => 10 * n + (c.toNat - '0'.toNat)) 0
    all.find? (· == n)
  else (all.drop least).find? fun n => (name n).toList == s.map Char.toUpper

/-- What is told of a child that a signal ended. -/
def text (signal : Nat) : String :=
  (texts[signal - 1]?).getD ("Real-time signal " ++ Text.natural (signal - firstFree))

/-- Whether a process that does not wait for a signal passes over it. -/
def isHarmless (signal : Nat) : Bool := [17, 18, 23, 28].contains signal

/-- Whether a signal stops a process that does not wait for it. -/
def stops (signal : Nat) : Bool := [19, 20, 21, 22].contains signal

/-- Whether nothing is told of a child that a signal ended. -/
def isSilent (signal : Nat) : Bool := signal == interrupt || signal == pipe

/-- Whether a process can wait for a signal. -/
def isCatchable (signal : Nat) : Bool := signal != kill && signal != stop

end Assay.Kernel.Signal
