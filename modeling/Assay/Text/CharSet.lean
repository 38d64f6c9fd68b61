import Assay.Text.CharClass

/-!
# Sets of characters

The sets that an expression matches one character with.
-/

namespace Assay.Text

/-- A set of characters. -/
inductive CharSet where
  | char (c : Char)
  | any
  /-- The characters in some ranges and classes, or all others. -/
  | oneOf (negated : Bool) (ranges : List (Char × Char)) (classes : List CharClass)
deriving DecidableEq, Repr

namespace CharSet

/-- Whether a character is in one of some ranges or classes. -/
def isListed (ranges : List (Char × Char)) (classes : List CharClass) (c : Char) : Bool :=
  (ranges.any fun (low, high) => low ≤ c && c ≤ high) || classes.any (·.has c)

/-- Whether a set has a character, or one of those that count as it. -/
def hasOne : CharSet → List Char → Bool
  | char d, cs => cs.contains d
  | any, _ => true
  | oneOf negated ranges classes, cs => cs.any (isListed ranges classes) != negated

end CharSet

end Assay.Text
