import Assay.Text.CharSet

/-!
# Ranges of characters

Sets of characters as lists of ranges of their numbers, and what can be done with such sets.
-/

namespace Assay.Text

/-- A set of characters, as ranges of their numbers. -/
abbrev Ranges := List (Nat × Nat)

namespace Ranges

/-- The greatest number of a character. -/
def lastNumber : Nat := 0x10FFFF

/-- The numbers between ranges that are in order, from a number on. -/
def gaps : (low : Nat) → Ranges → Ranges
  | low, [] => if low ≤ lastNumber then [(low, lastNumber)] else []
  | low, (first, last) :: rest =>
    let others := gaps (max low (last + 1)) rest
    if low < first then (low, first - 1) :: others else others

/-- The characters that are not in a set. -/
def complement (s : Ranges) : Ranges := gaps 0 (s.mergeSort fun a b => decide (a.1 ≤ b.1))

/-- The characters that are in two sets. -/
def intersection (a b : Ranges) : Ranges := complement (complement a ++ complement b)

/-- The characters that are in the first of two sets alone. -/
def difference (a b : Ranges) : Ranges := intersection a (complement b)

/-- The ranges of a named class of ASCII. -/
def ofName? (name : String) : Option Ranges :=
  match name with
  | "ascii" => some [(0, 127)]
  | "word" => some [(48, 57), (65, 90), (95, 95), (97, 122)]
  | "alnum" => some [(48, 57), (65, 90), (97, 122)]
  | "alpha" => some [(65, 90), (97, 122)]
  | "blank" => some [(9, 9), (32, 32)]
  | "cntrl" => some [(0, 31), (127, 127)]
  | "digit" => some [(48, 57)]
  | "graph" => some [(33, 126)]
  | "lower" => some [(97, 122)]
  | "print" => some [(32, 126)]
  | "punct" => some [(33, 47), (58, 64), (91, 96), (123, 126)]
  | "space" => some [(9, 13), (32, 32)]
  | "upper" => some [(65, 90)]
  | "xdigit" => some [(48, 57), (65, 70), (97, 102)]
  | _ => none

/-- A range with the letters of ASCII that are its letters in the other case. -/
def withOtherCase (range : Nat × Nat) : Ranges :=
  let shifted (first last moved : Nat) : Ranges :=
    let low := max range.1 first
    let high := min range.2 last
    if low ≤ high then [(low + moved - first, high + moved - first)] else []
  range :: shifted 65 90 97 ++ shifted 97 122 65

/-- The set of characters. Numbers between the halves of the table of characters stand for none. -/
def toSet (s : Ranges) : CharSet :=
  let lift (n : Nat) : Char := Char.ofNat (if 0xD800 ≤ n ∧ n < 0xE000 then 0xE000 else n)
  let lower (n : Nat) : Char := Char.ofNat (if 0xD800 ≤ n ∧ n < 0xE000 then 0xD7FF else n)
  .oneOf false (s.map fun (low, high) => (lift low, lower high)) []

end Ranges

end Assay.Text
