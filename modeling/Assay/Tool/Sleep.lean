import Assay.Kernel.Request
import Assay.Tool.Work

/-!
# Sleeping

`sleep` waits for as long as its operands say together. An operand is a decimal number, perhaps with
a letter for the unit.
-/

namespace Assay.Tool.Sleep

open Kernel (Duration)
open Text (Octets)

open Work

/-- The units, in millionths of a second. -/
def unit? (c : Char) : Option Nat :=
  match c with
  | 's' => some 1000000
  | 'm' => some 60000000
  | 'h' => some 3600000000
  | 'd' => some 86400000000
  | _ => none

/-- The number that decimal digits make. -/
def natOf (digits : Octets) : Nat :=
  digits.foldl (fun n c => n * 10 + (c.toNat - '0'.toNat)) 0

/-- The exponent after a number, and what follows. A mark without digits is none. -/
def exponent (s : Octets) : Int × Octets :=
  match s with
  | c :: rest =>
    let (negative, body) := match rest with
      | '-' :: rest => (true, rest)
      | '+' :: rest => (false, rest)
      | rest => (false, rest)
    let digits := body.takeWhile Char.isDigit
    if (c = 'e' || c = 'E') && !digits.isEmpty then
      (if negative then -(natOf digits : Int) else natOf digits, body.drop digits.length)
    else (0, s)
  | [] => (0, [])

/-- The greatest exponent that makes a difference. -/
def exponentLimit : Nat := 30

/-- The endless span. -/
def forever : Duration := Nat.pow 10 exponentLimit

/-- The span that an operand tells. -/
def interval? (s : Octets) : Option Duration :=
  let s := match s with
    | '+' :: rest => rest
    | s => s
  let scaled (value : Nat → Duration) (rest : Octets) : Option Duration :=
    match rest with
    | [] => some (value 1000000)
    | [c] => (unit? c).map value
    | _ => none
  let lower := s.map Char.toLower
  let spelled := ["infinity", "inf"].find? (·.toList.isPrefixOf lower)
  match spelled with
  | some word => scaled (fun _ => forever) (s.drop word.length)
  | none =>
    let whole := s.takeWhile Char.isDigit
    let (fraction, rest) := match s.drop whole.length with
      | '.' :: rest => (rest.takeWhile Char.isDigit, rest.dropWhile Char.isDigit)
      | rest => ([], rest)
    if whole.isEmpty && fraction.isEmpty then none
    else
      let (power, rest) := exponent rest
      let power := power - fraction.length
      let number := natOf (whole ++ fraction)
      let value (unit : Nat) : Duration :=
        if power < 0 then number * unit / Nat.pow 10 (min power.natAbs (exponentLimit + s.length))
        else number * unit * Nat.pow 10 (min power.natAbs exponentLimit)
      scaled value rest

/-- Waits. -/
def main (arguments : List Octets) : Work Nat := do
  let choices : List (Choice Unit) := [⟨(), "", ["help", "version"], .nothing⟩]
  let given := Given.ofArguments choices arguments
  for g in given do
    match g with
    | .wrong message => misuse message
    | .option .. => quit 0
    | .operand _ => pure ()
  match given.filterMap Given.operand? with
  | [] => misuse (octets "missing operand")
  | operands =>
    let wrong := operands.filter fun s => (interval? s).isNone
    for s in wrong do
      complain (octets "invalid time interval " ++ Name.curved s)
    unless wrong.isEmpty do
      hint
      quit 1
    let _ ← ask (.sleep ((operands.filterMap interval?).foldl (· + ·) 0))
    pure 0

end Assay.Tool.Sleep
