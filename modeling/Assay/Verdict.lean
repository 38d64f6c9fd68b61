import Assay.Test
import Assay.Text.Utf8

/-!
# Verdicts

A golden test passes when what its program printed is the fixture, byte for byte. Nothing is
normalized: a missing newline at the end is a failure. A verdict is not an error, whichever it is.
-/

namespace Assay

/-- The outcome of comparing a program's output with its fixture. -/
inductive Verdict where
  | pass
  | fail
deriving DecidableEq, Repr

namespace Verdict

/-- The verdict for whether output and fixture agree. -/
def ofMatch (agree : Bool) : Verdict := if agree then pass else fail

/-- The verdict on an output. -/
def compare (actual expected : Bytes) : Verdict := ofMatch (actual == expected)

/-- Whether the test passed. -/
def passed (v : Verdict) : Bool := v == pass

/-- The verdict's name, as it stands in the log. -/
def name : Verdict → String
  | pass => "Pass"
  | fail => "Fail"

/-- The mark a report line starts with. -/
def label : Verdict → String
  | pass => "OK:"
  | fail => "FAIL:"

/-- The report line of a test, in the pieces in which it is written. -/
def pieces (t : Test) (v : Verdict) : List String := [v.label, " ", t.id, "\n"]

/-- A test passes iff its output is, byte for byte, the expected one. -/
theorem compare_eq_pass_iff {actual expected : Bytes} :
    compare actual expected = pass ↔ actual = expected := by
  unfold compare ofMatch
  by_cases h : actual = expected
  · rw [if_pos (beq_iff_eq.mpr h)]
    exact iff_of_true rfl h
  · rw [if_neg (mt beq_iff_eq.mp h)]
    exact iff_of_false Verdict.noConfusion h

/-- Verdicts that agree on passing are the same. -/
theorem eq_of_pass_iff {v w : Verdict} (h : v = pass ↔ w = pass) : v = w := by
  cases w with
  | pass => exact h.mpr rfl
  | fail =>
    cases v with
    | pass => exact (h.mp rfl).symm
    | fail => rfl

end Verdict

/-- How many tests of a completed golden run passed and failed. -/
structure Tally where
  passed : Nat := 0
  failed : Nat := 0
deriving DecidableEq, Repr

namespace Tally

/-- The number of tests counted. -/
def total (n : Tally) : Nat := n.passed + n.failed

/-- The tally with one more verdict. -/
def record (n : Tally) : Verdict → Tally
  | .pass => { n with passed := n.passed + 1 }
  | .fail => { n with failed := n.failed + 1 }

/-- Every verdict that is recorded counts once. -/
theorem total_record (n : Tally) (v : Verdict) : (n.record v).total = n.total + 1 := by
  cases v <;> simp only [record, total] <;> omega

end Tally

end Assay
