/-!
# Words that resemble each other

A mistyped word is answered with the words that it may stand for. How alike two words are is
measured by the letters they share: a letter counts if the other word has it not too far from the
same place, and shared letters that stand in another order count half. The measure is the mean of
three proportions, the shared letters in either word and those of them in order, and words are alike
when it reaches seven tenths.
-/

namespace Assay.CommandLine.Likeness

/-- Takes a letter out of the letters that are still free, looking at those with a place from `low`
up to but not including `high`. A letter that was taken is `none`. -/
def claim (c : Char) (low high : Nat) : Nat → List (Option Char) → Option (List (Option Char))
  | _, [] => none
  | place, free :: rest =>
    if high ≤ place then none
    else if low ≤ place ∧ free = some c then some (none :: rest)
    else (claim c low high (place + 1) rest).map (free :: ·)

/-- The letters of a word that another one shares, in order, and what stays free of the other. -/
def share (reach : Nat) : Nat → List Char → List (Option Char) → List Char × List (Option Char)
  | _, [], free => ([], free)
  | place, c :: rest, free =>
    match claim c (place - reach) (place + reach + 1) 0 free with
    | some free =>
      let (shared, free) := share reach (place + 1) rest free
      (c :: shared, free)
    | none => share reach (place + 1) rest free

/-- How far apart two places of one letter may be. -/
def reach (a b : List Char) : Nat := max a.length b.length / 2 - 1

/-- The letters of the second word that were taken, in order. -/
def taken (b : List Char) (free : List (Option Char)) : List Char :=
  (b.zip free).filterMap fun (c, left) => if left.isNone then some c else none

/-- Whether two words are alike. -/
def alike (a b : List Char) : Bool :=
  let (shared, free) := share (reach a b) 0 a (b.map some)
  let moved := ((shared.zip (taken b free)).filter fun (c, d) => c != d).length / 2
  let m := shared.length
  if m = 0 then a.isEmpty && b.isEmpty
  else
    21 * a.length * b.length * m ≤
      10 * (m * m * b.length + m * m * a.length + (m - moved) * a.length * b.length)

/-- The words that a word resembles. -/
def among (word : String) (words : List String) : List String :=
  words.filter fun known => alike word.toList known.toList

end Assay.CommandLine.Likeness
