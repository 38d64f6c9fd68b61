import Assay.Shell.Builtin.Option

/-!
# Commands for limits and times

`ulimit` shows and sets what the shell and the processes that it starts may use; `times` shows what
they have used.
-/

namespace Assay.Shell.Builtin

open Kernel (Limit Resource)
open Text (Octets)

open Run

/-- A limit that can be shown and set. -/
structure LimitChoice where
  letter : Char
  name : String
  resource : Resource
  /-- How many times the limit is what is counted, as it is written. -/
  unit : Nat

/-- The limits on what processes may use. -/
def limits : List LimitChoice :=
  [⟨'t', "time(seconds)", .time, 1⟩, ⟨'f', "file(blocks)", .fileSize, 512⟩,
    ⟨'d', "data(kbytes)", .data, 1024⟩, ⟨'s', "stack(kbytes)", .stack, 1024⟩,
    ⟨'c', "coredump(blocks)", .core, 512⟩, ⟨'m', "memory(kbytes)", .memory, 1024⟩,
    ⟨'l', "locked memory(kbytes)", .lockedMemory, 1024⟩, ⟨'p', "process", .processes, 1⟩,
    ⟨'n', "nofiles", .descriptors, 1⟩, ⟨'v', "vmemory(kbytes)", .space, 1024⟩,
    ⟨'w', "locks", .locks, 1⟩, ⟨'r', "rtprio", .priority, 1⟩]

/-- One more than the greatest limit. The number in front of it stands for none. -/
def limitModulus : Nat := 18446744073709551616

/-- The limit that a text writes. -/
def limitOf? (unit : Nat) (text : Octets) : Option (Option Nat) :=
  if text == octets "unlimited" then some none
  else if text.all Char.isDigit then
    let n := Numeral.ofDigits 10 text * unit % limitModulus
    some (if n + 1 = limitModulus then none else some n)
  else none

/-- Shows a limit, the hard one or the soft one. -/
def showLimit (c : LimitChoice) (hard : Bool) : Run Unit := do
  let l ← ask (.limit c.resource)
  match if hard then l.hard else l.soft with
  | none => say (octets "unlimited\n")
  | some n => say (Text.digits (n / c.unit) ++ ['\n'])

/-- Shows or sets a limit. Both the hard and the soft one are set unless one is named. -/
def limit (arguments : List Octets) : Run Nat := do
  let letters := ['H', 'S', 'a'] ++ limits.map (·.letter)
  let (given, operands) ← options (letters.map (·, false)) arguments
  let side := ((given.filter fun (c, _) => c == 'H' || c == 'S').getLast?).map (·.1)
  let asked := (given.filter fun (c, _) => !(['H', 'S', 'a'].contains c)).getLast?.map (·.1)
  let choice := (limits.find? (·.letter == asked.getD 'f')).getD
    ⟨'f', "file(blocks)", .fileSize, 512⟩
  let all := has given 'a'
  match operands with
  | [] =>
    if all then
      limits.forM fun c => do
        say (octets c.name ++ List.replicate (20 - c.name.length) ' ' ++ [' '])
        showLimit c (side == some 'H')
    else showLimit choice (side == some 'H')
    pure 0
  | text :: others =>
    if all || !others.isEmpty then failPlain "too many arguments"
    match limitOf? choice.unit text with
    | none => failPlain "bad number"
    | some n =>
      let l ← ask (.limit choice.resource)
      let l : Limit :=
        ⟨if side == some 'H' then l.soft else n, if side == some 'S' then l.hard else n⟩
      match ← ask (.setLimit choice.resource l) with
      | .ok () => pure 0
      | .error e => failPlain ("error setting limit (" ++ e.reason ++ ")")

/-- Shows the time that was used up. -/
def usedTimes : Run Nat := do
  let line := "0m0.000000s 0m0.000000s\n"
  say (octets (line ++ line))
  pure 0

end Assay.Shell.Builtin
