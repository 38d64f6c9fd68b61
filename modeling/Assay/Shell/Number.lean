import Assay.Text.Octets

/-!
# Numbers in texts

Where a text should be a number, as much of it is taken as is one: blanks, a sign and digits. The
base is given, or told by the digits themselves: hexadecimal after `0x`, octal after `0`. A number
that is out of range is cut to the range, and that is told.
-/

namespace Assay.Shell

open Text (Octets)

/-- The number that a text begins with. -/
structure Numeral where
  value : Int
  /-- Whether the value was cut to the range. -/
  overflows : Bool
  /-- The text after the number. Where there is no number it is the whole text. -/
  rest : Octets
deriving DecidableEq, Repr

namespace Numeral

/-- The least integer of 64 bits. -/
def least : Int := -0x8000000000000000

/-- The greatest integer of 64 bits. -/
def greatest : Int := 0x7FFFFFFFFFFFFFFF

/-- The greatest integer of 64 bits without a sign. -/
def greatestUnsigned : Int := 0xFFFFFFFFFFFFFFFF

/-- The greatest integer of 32 bits. -/
def greatestShort : Int := 0x7FFFFFFF

/-- Whether a character is a blank in front of a number. -/
def isBlank (c : Char) : Bool := c == ' ' || ('\t' ≤ c && c ≤ '\r')

/-- The value of a digit in some base up to 36. -/
def digit? (c : Char) : Option Nat :=
  if c.isDigit then some (c.toNat - '0'.toNat)
  else if 'a' ≤ c ∧ c ≤ 'z' then some (c.toNat - 'a'.toNat + 10)
  else if 'A' ≤ c ∧ c ≤ 'Z' then some (c.toNat - 'A'.toNat + 10)
  else none

/-- Whether a character is a digit in a base. -/
def isDigitIn (base : Nat) (c : Char) : Bool := (digit? c).any (· < base)

/-- The number of digits in a base. -/
def ofDigits (base : Nat) (digits : Octets) : Nat :=
  digits.foldl (fun n c => base * n + (digit? c).getD 0) 0

/-- The sign in front of digits, and the digits. -/
def sign : Octets → Bool × Octets
  | '-' :: rest => (true, rest)
  | '+' :: rest => (false, rest)
  | s => (false, s)

/-- The base that digits tell, and the digits without the mark of it. -/
def base : Octets → Nat × Octets
  | '0' :: x :: c :: rest =>
    if (x == 'x' || x == 'X') && isDigitIn 16 c then (16, c :: rest) else (8, '0' :: x :: c :: rest)
  | '0' :: rest => (8, '0' :: rest)
  | s => (10, s)

/-- The sign, the number without it and the text after it; `none` where there is no number. -/
def parts? (decimal : Bool) (s : Octets) : Option (Bool × Nat × Octets) :=
  let (negative, body) := sign (s.dropWhile isBlank)
  let (base, body) := if decimal then (10, body) else base body
  let digits := body.takeWhile (isDigitIn base)
  if digits.isEmpty then none
  else some (negative, ofDigits base digits, body.drop digits.length)

/-- The integer that a text begins with. -/
def signed (decimal : Bool) (s : Octets) : Numeral :=
  match parts? decimal s with
  | none => ⟨0, false, s⟩
  | some (negative, n, rest) =>
    let value : Int := if negative then -n else n
    if value < least then ⟨least, true, rest⟩
    else if greatest < value then ⟨greatest, true, rest⟩
    else ⟨value, false, rest⟩

/-- The integer without a sign that a text begins with. A negative one counts from the top. -/
def unsigned (s : Octets) : Numeral :=
  match parts? false s with
  | none => ⟨0, false, s⟩
  | some (negative, n, rest) =>
    if greatestUnsigned < n then ⟨greatestUnsigned, true, rest⟩
    else ⟨(if negative then -(n : Int) else n) % (greatestUnsigned + 1), false, rest⟩

/-- The integer that a text is, blanks around it apart. A blank text is the number 0 unless only
decimal digits are wanted. -/
def whole? (decimal : Bool) (s : Octets) : Option Int :=
  let n := signed decimal s
  if n.overflows then none
  else if decimal && (parts? decimal s).isNone then none
  else if (n.rest.dropWhile isBlank).isEmpty then some n.value
  else none

/-- The natural number of 31 bits that a text is. -/
def natural? (s : Octets) : Option Nat :=
  match whole? true s with
  | some n => if 0 ≤ n ∧ n ≤ greatestShort then some n.toNat else none
  | none => none

end Numeral

end Assay.Shell
