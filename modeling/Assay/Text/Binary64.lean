import Assay.Text.Octets

/-!
# Fractions of 64 bits

A finite fraction is a whole number of 53 bits times a power of two. A text is read as the nearest
one; of two that are equally near, the one with the even number. Fractions are shown with as many
digits as asked for, each rounded exactly from the value, and a value half way between two digits
goes to the even one.
-/

namespace Assay.Text

/-- A fraction of 64 bits. -/
structure Binary64 where
  negative : Bool
  /-- The value without its sign: a number times a power of two; `none` if it is endless. -/
  magnitude : Option (Nat × Int)
  /-- Whether it is no number at all. -/
  isNan : Bool
deriving DecidableEq, Repr

namespace Binary64

/-- How a fraction is shown. -/
inductive Style where
  | positional
  | scientific
  /-- Whichever is shorter. -/
  | general
  | hexadecimal
deriving DecidableEq, Repr

/-- The power of two of the least fractions. -/
def leastExponent : Int := -1074

/-- The power of two of the greatest fractions. -/
def greatestExponent : Int := 971

/-- The bits that the number of a fraction may have. -/
def precision : Nat := 53

/-- Zero. -/
def zero (negative : Bool) : Binary64 := ⟨negative, some (0, 0), false⟩

/-- The fraction that has no end. -/
def endless (negative : Bool) : Binary64 := ⟨negative, none, false⟩

/-- Whether a fraction has a value. -/
def isFinite (x : Binary64) : Bool := x.magnitude.isSome && !x.isNan

/-- A quotient rounded to a whole number, and a half to the even one. -/
def roundQuotient (num den : Nat) : Nat :=
  let q := num / den
  let r := num % den
  if 2 * r < den then q
  else if den < 2 * r then q + 1
  else q + q % 2

/-- The number of bits of a number. -/
def bitLength (n : Nat) : Nat := if n = 0 then 0 else Nat.log2 n + 1

/-- A quotient in units of a power of two, rounded. -/
def inUnits (num den : Nat) (e : Int) : Nat :=
  if 0 ≤ e then roundQuotient num (den <<< e.toNat) else roundQuotient (num <<< (-e).toNat) den

/-- The fraction nearest to a quotient, and whether it is out of range. -/
def ofQuotient (negative : Bool) (num den : Nat) : Binary64 × Bool :=
  if num = 0 then (zero negative, false)
  else
    let guess : Int := (bitLength num : Int) - bitLength den - precision
    let e := max guess leastExponent
    let n := inUnits num den e
    let (n, e) := if n < 1 <<< precision then (n, e)
      else
        let e := e + 1
        (inUnits num den e, e)
    let (n, e) := if n < 1 <<< (precision - 1) && leastExponent < e then
        let e := e - 1
        (inUnits num den e, e)
      else (n, e)
    if greatestExponent < e || (e = greatestExponent && 1 <<< precision ≤ n) then
      (endless negative, true)
    else if n = 0 then (zero negative, true)
    else (⟨negative, some (n, e), false⟩, false)

/-- The fraction of a natural number. -/
def ofNat (n : Nat) : Binary64 := (ofQuotient false n 1).1

/-! ### Reading -/

/-- The value of a digit of a hexadecimal number. -/
def digit? (c : Char) : Option Nat :=
  if c.isDigit then some (c.toNat - '0'.toNat)
  else
    let c := c.toLower
    if 'a' ≤ c ∧ c ≤ 'f' then some (c.toNat - 'a'.toNat + 10) else none

/-- The digits at the beginning in a base, and what follows. -/
def digitsOf (base : Nat) (s : Octets) : Octets × Octets :=
  let digits := s.takeWhile fun c => (digit? c).any (· < base)
  (digits, s.drop digits.length)

/-- The number of digits in a base. -/
def valueOf (base : Nat) (digits : Octets) : Nat :=
  digits.foldl (fun n c => base * n + (digit? c).getD 0) 0

/-- The exponent after its letter, if there is one, and what follows. -/
def exponentOf (letter : Char) (s : Octets) : Int × Octets :=
  match s with
  | c :: rest =>
    if c.toLower != letter then (0, s)
    else
      let (negative, body) := match rest with
        | '-' :: body => (true, body)
        | '+' :: body => (false, body)
        | body => (false, body)
      let (digits, after) := digitsOf 10 body
      if digits.isEmpty then (0, s)
      else
        let n : Nat := min (valueOf 10 digits) 100000
        (if negative then -(n : Int) else n, after)
  | [] => (0, [])

/-- A text that begins with a word in small letters or capital ones, and what follows. -/
def word? (word : String) (s : Octets) : Option Octets :=
  if (s.take word.length).map Char.toLower == word.toList then some (s.drop word.length) else none

/-- The fraction of a number in a base with a point and an exponent, if there are digits. -/
def readNumber? (negative : Bool) (base : Nat) (letter : Char) (scale : Nat) (s : Octets) :
    Option (Binary64 × Octets × Bool) :=
  let (whole, after) := digitsOf base s
  let (part, after) := match after with
    | '.' :: rest =>
      let (part, rest') := digitsOf base rest
      if whole.isEmpty && part.isEmpty then ([], after) else (part, rest')
    | after => ([], after)
  if whole.isEmpty && part.isEmpty then none
  else
    let (e, rest) := exponentOf letter after
    let n := valueOf base (whole ++ part)
    let den := Nat.pow base part.length
    let (x, overflows) :=
      if 0 ≤ e then ofQuotient negative (n * Nat.pow scale e.toNat) den
      else ofQuotient negative n (den * Nat.pow scale (-e).toNat)
    some (x, rest, overflows)

/-- The fraction that a text begins with, what follows it, and whether it is out of range. Where
there is none, the whole text follows. -/
def read (s : Octets) : Binary64 × Octets × Bool :=
  let isBlank (c : Char) : Bool := c == ' ' || ('\t' ≤ c && c ≤ '\r')
  let (negative, body) := match s.dropWhile isBlank with
    | '-' :: rest => (true, rest)
    | '+' :: rest => (false, rest)
    | rest => (false, rest)
  match word? "infinity" body, word? "inf" body, word? "nan" body with
  | some rest, _, _ | none, some rest, _ => (endless negative, rest, false)
  | none, none, some rest => (⟨negative, none, true⟩, rest, false)
  | none, none, none =>
    let hexadecimal := match word? "0x" body with
      | some rest => readNumber? negative 16 'p' 2 rest
      | none => none
    match hexadecimal with
    | some found => found
    | none => (readNumber? negative 10 'e' 10 body).getD (zero false, s, false)

/-! ### Showing -/

/-- The decimal digits of a number. -/
def decimal (n : Nat) : Octets := Nat.toDigits 10 n

/-- Digits with a point in front of the last ones. -/
def withPoint (alternate : Bool) (places : Nat) (digits : Octets) : Octets :=
  let digits := List.replicate (places + 1 - digits.length) '0' ++ digits
  let whole := digits.take (digits.length - places)
  if places = 0 then (if alternate then whole ++ ['.'] else whole)
  else whole ++ '.' :: digits.drop whole.length

/-- The quotient that a number times a power of two is. -/
def quotient (n : Nat) (e : Int) : Nat × Nat :=
  if 0 ≤ e then (n <<< e.toNat, 1) else (n, 1 <<< (-e).toNat)

/-- A quotient with so many places after the point. -/
def positional (alternate : Bool) (places : Nat) (num den : Nat) : Octets :=
  withPoint alternate places (decimal (roundQuotient (num * Nat.pow 10 places) den))

/-- The power of ten of the first digit of a quotient. -/
def exponentTen (num den : Nat) : Int :=
  let guess : Int := (decimal num).length - (decimal den).length
  let reaches (e : Int) : Bool :=
    if 0 ≤ e then den * Nat.pow 10 e.toNat ≤ num else den ≤ num * Nat.pow 10 (-e).toNat
  if reaches guess then guess else guess - 1

/-- So many digits of a quotient, and the power of ten of the first of them. -/
def leading (count : Nat) (num den : Nat) : Octets × Int :=
  if num = 0 then (List.replicate count '0', 0)
  else
    let e := exponentTen num den
    let shift : Int := count - 1 - e
    let n := if 0 ≤ shift then roundQuotient (num * Nat.pow 10 shift.toNat) den
      else roundQuotient num (den * Nat.pow 10 (-shift).toNat)
    let digits := decimal n
    if count < digits.length then (digits.take count, e + 1) else (digits, e)

/-- An exponent with its sign and at least so many digits. -/
def exponentText (width : Nat) (e : Int) : Octets :=
  let digits := decimal e.natAbs
  (if e < 0 then '-' else '+') :: (List.replicate (width - digits.length) '0' ++ digits)

/-- Digits with a point after the first one. -/
def pointed (alternate : Bool) (digits : Octets) : Octets :=
  match digits with
  | [] => []
  | [c] => if alternate then [c, '.'] else [c]
  | c :: rest => c :: '.' :: rest

/-- A quotient with an exponent and so many places after the point. -/
def scientific (alternate : Bool) (places : Nat) (num den : Nat) : Octets :=
  let (digits, e) := leading (places + 1) num den
  pointed alternate digits ++ 'e' :: exponentText 2 e

/-- A text without the noughts at its end. -/
def withoutNoughts (s : Octets) : Octets := (s.reverse.dropWhile (· == '0')).reverse

/-- A quotient with so many digits that count, in the shorter way. -/
def general (alternate : Bool) (count : Nat) (num den : Nat) : Octets :=
  let count := max count 1
  let (digits, e) := leading count num den
  let kept (s : Octets) : Octets := if alternate then s else withoutNoughts s
  if e < -4 ∨ (count : Int) ≤ e then
    let rest := kept digits.tail
    pointed alternate (digits.take 1 ++ rest) ++ 'e' :: exponentText 2 e
  else
    let shown := positional alternate ((count : Int) - 1 - e).toNat num den
    if alternate || !shown.contains '.' then shown
    else
      let short := withoutNoughts shown
      if short.getLast? == some '.' then short.dropLast else short

/-- A number times a power of two in hexadecimal digits. -/
def hexadecimal (alternate : Bool) (places : Option Nat) (n : Nat) (e : Int) : Octets :=
  let (digits, e) : Octets × Int :=
    if n = 0 then (['0'], 0)
    else
      let shift := precision - bitLength n
      let shift := if e - shift < leastExponent then 0 else shift
      let scaled := n <<< shift
      let e := e - shift
      match places with
      | some p =>
        if p < 13 then
          (Nat.toDigits 16 (roundQuotient scaled (1 <<< (4 * (13 - p)))), e + 52)
        else (Nat.toDigits 16 scaled, e + 52)
      | none => (Nat.toDigits 16 scaled, e + 52)
  let rest := match places with
    | some p => digits.tail ++ List.replicate (p - digits.tail.length) '0'
    | none => withoutNoughts digits.tail
  '0' :: 'x' :: pointed alternate (digits.take 1 ++ rest) ++ 'p' :: exponentText 1 e

/-- A fraction as it is shown, its sign apart. Six places or digits are shown where nothing else is
said. -/
def shown (x : Binary64) (style : Style) (alternate : Bool) (places : Option Nat) : Octets :=
  if x.isNan then ['n', 'a', 'n']
  else
    match x.magnitude with
    | none => ['i', 'n', 'f']
    | some (n, e) =>
      let (num, den) := quotient n e
      match style with
      | .positional => positional alternate (places.getD 6) num den
      | .scientific => scientific alternate (places.getD 6) num den
      | .general => general alternate (places.getD 6) num den
      | .hexadecimal => hexadecimal alternate places n e

end Binary64

end Assay.Text
