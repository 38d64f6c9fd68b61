import Assay.Text.Lines
import Assay.Text.Octets

/-!
# Changes of permissions

The permissions of a file are twelve bits: three for each of the owner, the group and the others,
and three more. A change is written with digits, which tell all of them, or with letters, for
instance `u+x,go-w`: for whom, what is done, and with which permissions. Where nobody is named, the
change is for everybody but leaves those alone that new files do not get.
-/

namespace Assay.Tool

open Text (Octets)

/-- What is done with permissions. -/
inductive ModeOperation where
  | add
  | remove
  | set
deriving DecidableEq, Repr

/-- Where the permissions come from. -/
inductive ModeSource where
  | given
  /-- To execute too, if it is a directory or somebody may execute it. -/
  | givenAndSearch
  /-- Those that somebody has already. -/
  | existing
deriving DecidableEq, Repr

/-- A part of a change. -/
structure ModeStep where
  operation : ModeOperation
  source : ModeSource
  /-- The bits of those it is for; none if nobody is named. -/
  affected : Nat
  value : Nat
  /-- The bits that are told explicitly. -/
  mentioned : Nat
deriving DecidableEq, Repr

/-- A change of permissions. -/
abbrev ModeChange := List ModeStep

namespace ModeChange

/-- All bits. -/
def all : Nat := 0o7777

/-- The bits that let a program run as its owner or group. -/
def identityBits : Nat := 0o6000

/-- The bits that are not in a mask. -/
def without (mask : Nat) : Nat := all ^^^ (mask &&& all)

/-- The bits of a class of users. -/
def classBits? (c : Char) : Option Nat :=
  match c with
  | 'u' => some 0o4700
  | 'g' => some 0o2070
  | 'o' => some 0o1007
  | 'a' => some all
  | _ => none

/-- The bits of permissions, for everybody. -/
def permissionBits? (c : Char) : Option Nat :=
  match c with
  | 'r' => some 0o444
  | 'w' => some 0o222
  | 'x' => some 0o111
  | 's' => some identityBits
  | 't' => some 0o1000
  | _ => none

/-- The permissions of one class that are copied. -/
def copiedBits? (c : Char) : Option Nat :=
  match c with
  | 'u' => some 0o700
  | 'g' => some 0o070
  | 'o' => some 0o007
  | _ => none

/-- What a sign does. -/
def operation? (c : Char) : Option ModeOperation :=
  match c with
  | '+' => some .add
  | '-' => some .remove
  | '=' => some .set
  | _ => none

/-- Whether a character is a digit to the base 8. -/
def isOctalDigit (c : Char) : Bool := '0' ≤ c && c ≤ '7'

/-- The permissions that digits tell. -/
def octal? (digits : Octets) : Option Nat :=
  let n := digits.foldl (fun n c => min (n * 8 + (c.toNat - '0'.toNat)) (all + 1)) 0
  if n ≤ all then some n else none

/-- The permissions that letters tell, whether `X` is among them, and what follows. -/
def letters : Octets → Nat × Bool × Octets
  | [] => (0, false, [])
  | c :: rest =>
    match permissionBits? c with
    | some bits =>
      let (value, search, rest) := letters rest
      (value ||| bits, search, rest)
    | none =>
      if c = 'X' then
        let (value, _, rest) := letters rest
        (value, true, rest)
      else (0, false, c :: rest)

/-- Reads steps for the same users, one after the other. -/
def steps (affected : Nat) : Nat → Octets → Option (ModeChange × Octets)
  | 0, _ => none
  | n + 1, s => do
    let c :: rest := s | some ([], [])
    let some operation := operation? c | some ([], s)
    match rest with
    | d :: _ =>
      if isOctalDigit d then
        let digits := rest.takeWhile isOctalDigit
        let after := rest.drop digits.length
        let value ← octal? digits
        if affected = 0 && (after.isEmpty || after.head? == some ',') then
          pure ([⟨operation, .given, all, value, all⟩], after)
        else none
      else
        let (step, after) := match copiedBits? d with
          | some bits => (ModeStep.mk operation .existing affected bits bits, rest.tail)
          | none =>
            let (value, search, after) := letters rest
            (ModeStep.mk operation (if search then .givenAndSearch else .given) affected value
              (if affected = 0 then value else affected &&& value), after)
        let (more, after) ← steps affected n after
        pure (step :: more, after)
    | [] => pure ([⟨operation, .given, affected, 0, 0⟩], [])

/-- Reads one clause. -/
def clause? (s : Octets) : Option ModeChange := do
  let who := s.takeWhile fun c => (classBits? c).isSome
  let affected := (who.filterMap classBits?).foldl (· ||| ·) 0
  let rest := s.drop who.length
  if rest.isEmpty then none
  else
    let (change, after) ← steps affected (rest.length + 1) rest
    if change.isEmpty || !after.isEmpty then none else some change

/-- Exactly these permissions. Those that let a program run as its owner are kept for directories
where they are not told. -/
def exact (value : Nat) (tellsAll : Bool) : ModeChange :=
  let mentioned := if tellsAll then all else (value &&& identityBits) ||| 0o1777
  [⟨.set, .given, all, value, mentioned⟩]

/-- Reads a change. -/
def ofText? (s : Octets) : Option ModeChange :=
  if s.head?.any isOctalDigit then
    if s.all isOctalDigit then (octal? s).map (exact · (5 ≤ s.length)) else none
  else
    (Text.split ',' s).foldr (fun part rest => do
      let change ← clause? part
      pure (change ++ (← rest))) (some [])

/-- The permissions after one step. `mask` holds those that new files do not get. -/
def applyStep (isDirectory : Bool) (mask : Nat) (mode : Nat) (s : ModeStep) : Nat :=
  let kept := if isDirectory then identityBits &&& without s.mentioned else 0
  let copied := s.value &&& mode
  let spread (bits : Nat) : Nat := if copied &&& bits = 0 then 0 else bits
  let value := match s.source with
    | .given => s.value
    | .givenAndSearch => s.value ||| (if isDirectory || mode &&& 0o111 != 0 then 0o111 else 0)
    | .existing => copied ||| spread 0o444 ||| spread 0o222 ||| spread 0o111
  let value := value &&& (if s.affected = 0 then without mask else s.affected) &&& without kept
  match s.operation with
  | .add => mode ||| value
  | .remove => mode &&& without value
  | .set => (mode &&& ((if s.affected = 0 then 0 else without s.affected) ||| kept)) ||| value

/-- The permissions after a change. -/
def apply (change : ModeChange) (isDirectory : Bool) (mask mode : Nat) : Nat :=
  change.foldl (applyStep isDirectory mask) (mode &&& all)

/-- Permissions as letters. -/
def spelled (mode : Nat) : Octets :=
  let has (bits : Nat) : Bool := mode &&& bits != 0
  let letter (bits : Nat) (c : Char) : Char := if has bits then c else '-'
  let last (execute special : Nat) (small capital : Char) : Char :=
    if has special then (if has execute then small else capital) else letter execute 'x'
  [letter 0o400 'r', letter 0o200 'w', last 0o100 0o4000 's' 'S', letter 0o040 'r',
    letter 0o020 'w', last 0o010 0o2000 's' 'S', letter 0o004 'r', letter 0o002 'w',
    last 0o001 0o1000 't' 'T']

/-- Permissions as four digits. -/
def digits (mode : Nat) : Octets :=
  [512, 64, 8, 1].map fun unit => Char.ofNat ('0'.toNat + mode / unit % 8)

end ModeChange

end Assay.Tool
