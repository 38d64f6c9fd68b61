/-!
# Decimal numerals

Exit codes, counts and error numbers are shown in decimal: no leading zeros, a `-` before the
digits of a negative number. No two numbers have the same numeral (`integer_injective`).
-/

namespace Assay.Text

/-- The decimal digits of a natural number. -/
def digits (n : Nat) : List Char := Nat.toDigits 10 n

/-- The decimal numeral of a natural number. -/
def natural (n : Nat) : String := String.ofList (digits n)

/-- The decimal numeral of an integer. -/
def integer : Int → String
  | .ofNat n => natural n
  | .negSucc n => "-" ++ natural (n + 1)

/-- A numeral is made of digits. -/
theorem isDigit_of_mem_digits {n : Nat} {c : Char} (h : c ∈ digits n) : c.isDigit = true :=
  Nat.isDigit_of_mem_toDigits (by decide) (by decide) h

/-- Numbers with the same numeral are the same. -/
theorem natural_injective {m n : Nat} (h : natural m = natural n) : m = n := by
  have hdigits : digits m = digits n := String.ofList_injective h
  calc
    m = Nat.ofDigitChars 10 (digits m) 0 := Nat.ofDigitChars_ten_toDigits.symm
    _ = Nat.ofDigitChars 10 (digits n) 0 := by rw [hdigits]
    _ = n := Nat.ofDigitChars_ten_toDigits

/-- A numeral of a natural number has no sign. -/
theorem natural_ne_minus (m : Nat) (text : String) : natural m ≠ "-" ++ text := by
  intro h
  have hminus : '-' ∈ digits m := by
    rw [← String.toList_ofList (l := digits m)]
    change '-' ∈ (natural m).toList
    rw [h, String.toList_append]
    exact List.mem_append_left _ (by decide)
  cases isDigit_of_mem_digits hminus

/-- No two integers have the same numeral. -/
theorem integer_injective {i j : Int} (h : integer i = integer j) : i = j := by
  cases i with
  | ofNat m =>
    cases j with
    | ofNat n => exact congrArg Int.ofNat (natural_injective h)
    | negSucc n => exact absurd h (natural_ne_minus m _)
  | negSucc m =>
    cases j with
    | ofNat n => exact absurd h.symm (natural_ne_minus n _)
    | negSucc n =>
      have hdigits : natural (m + 1) = natural (n + 1) := String.append_right_inj _ |>.mp h
      exact congrArg Int.negSucc (Nat.succ.inj (natural_injective hdigits))

/-- A numeral is a sign and digits, so it does not end a line. -/
theorem newline_not_mem_integer (i : Int) : '\n' ∉ (integer i).toList := by
  have hdigits (n : Nat) : '\n' ∉ (natural n).toList := by
    intro hmem
    rw [natural, String.toList_ofList] at hmem
    cases isDigit_of_mem_digits hmem
  cases i with
  | ofNat n => exact hdigits n
  | negSucc n =>
    rw [integer, String.toList_append, List.mem_append, not_or]
    exact ⟨by decide, hdigits (n + 1)⟩

end Assay.Text
