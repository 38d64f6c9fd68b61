/-!
# Limits

What a process may use is limited. The soft limit is in force; the process may change it up to the
hard limit, which it may lower but not raise. A copy of a process has the same limits.
-/

namespace Assay.Kernel

/-- What is limited. -/
inductive Resource where
  | time
  | fileSize
  | data
  | stack
  | core
  | memory
  | lockedMemory
  | processes
  | descriptors
  | space
  | locks
  | priority
deriving DecidableEq, Repr

/-- A limit. There may be none. -/
structure Limit where
  soft : Option Nat
  hard : Option Nat
deriving DecidableEq, Repr

namespace Limit

/-- The same soft and hard limit. -/
def both (n : Nat) : Limit := ⟨some n, some n⟩

/-- No limit. -/
def unlimited : Limit := ⟨none, none⟩

/-- Whether one number, or none, is within another one. -/
def isWithin : Option Nat → Option Nat → Bool
  | _, none => true
  | some n, some m => n ≤ m
  | none, some _ => false

/-- Whether a number that is used is within the soft limit. -/
def allows (l : Limit) (n : Nat) : Bool := isWithin (some n) l.soft

/-- The limit of a resource before it is changed. -/
def usual : Resource → Limit
  | .stack => ⟨some 8388608, none⟩
  | .core => ⟨some 0, none⟩
  | .lockedMemory => both 8388608
  | .descriptors => both 1048576
  | .priority => both 0
  | _ => unlimited

end Limit

end Assay.Kernel
