import Assay.Shell.Number
import Assay.Text.Binary64

/-!
# Formatted output

A format is text with escapes and conversions. A conversion takes the next argument, or an empty one
where there is none, and shows it in a width; when arguments are left at the end of the format, it
is gone through again.

A mistake stops the output where it is; an argument that is no number is shown as far as it is one,
and complained about.
-/

namespace Assay.Shell.Format

open Text (Octets)

/-- What is shown, what is complained about, and the message of a mistake that stopped it. -/
structure Printed where
  /-- What is shown, the last part first. -/
  parts : List Octets
  complaints : List Octets
  mistake : Option Octets

namespace Printed

/-- Nothing yet. -/
def empty : Printed := ⟨[], [], none⟩

/-- With more text. -/
def write (p : Printed) (s : Octets) : Printed := { p with parts := s :: p.parts }

/-- With a complaint. -/
def complain (p : Printed) (s : Octets) : Printed := { p with complaints := p.complaints ++ [s] }

/-- All that is shown. -/
def text (p : Printed) : Octets := p.parts.reverse.flatten

end Printed

/-! ### Escapes -/

/-- The byte of up to three octal digits at the beginning, and what follows. -/
def octalByte (s : Octets) : Char × Octets :=
  let digits := (s.take 3).takeWhile (Numeral.isDigitIn 8)
  (Char.ofNat (Numeral.ofDigits 8 digits % 256), s.drop digits.length)

/-- The character of an escape letter. -/
def escape? (c : Char) : Option Char :=
  match c with
  | 'a' => some '\x07'
  | 'b' => some '\x08'
  | 'e' => some '\x1b'
  | 'f' => some '\x0c'
  | 'n' => some '\n'
  | 'r' => some '\r'
  | 't' => some '\t'
  | 'v' => some '\x0b'
  | '\\' => some '\\'
  | _ => none

/-- What is shown for a backslash, given what stands after it, and what follows. -/
def formatEscape (s : Octets) : Char × Octets :=
  match s with
  | [] => ('\\', [])
  | c :: rest =>
    if Numeral.isDigitIn 8 c then octalByte s
    else
      match escape? c with
      | some d => (d, rest)
      | none => ('\\', c :: rest)

/-- A text with its escapes filled in, and whether `\c` ended it. Octal digits may come after a
0 that does not count. -/
def unescape : Nat → Octets → Octets × Bool
  | 0, s => (s, false)
  | _, [] => ([], false)
  | _, '\\' :: 'c' :: _ => ([], true)
  | n + 1, '\\' :: rest =>
    let body := match rest with
      | '0' :: d :: more => if Numeral.isDigitIn 8 d then d :: more else rest
      | rest => rest
    let (c, rest) := formatEscape body
    let (more, ended) := unescape n rest
    (c :: more, ended)
  | n + 1, c :: rest =>
    let (more, ended) := unescape n rest
    (c :: more, ended)

/-- A whole text with its escapes filled in. -/
def unescaped (s : Octets) : Octets × Bool := unescape (s.length + 1) s

/-! ### Conversions -/

/-- How a conversion is shown. -/
structure Layout where
  left : Bool := false
  zeros : Bool := false
  plus : Bool := false
  blank : Bool := false
  alternate : Bool := false
  width : Nat := 0
  precision : Option Nat := none

namespace Layout

/-- The layout with a flag, if a character is one. -/
def flag? (l : Layout) (c : Char) : Option Layout :=
  match c with
  | '-' => some { l with left := true }
  | '0' => some { l with zeros := true }
  | '+' => some { l with plus := true }
  | ' ' => some { l with blank := true }
  | '#' => some { l with alternate := true }
  | _ => none

/-- The layout of the flags in front, and what follows. -/
def flags (l : Layout) : Octets → Layout × Octets
  | [] => (l, [])
  | c :: rest =>
    match l.flag? c with
    | some l => l.flags rest
    | none => (l, c :: rest)

/-- A text in the width. -/
def pad (l : Layout) (s : Octets) : Octets :=
  let gap := List.replicate (l.width - s.length) ' '
  if l.left then s ++ gap else gap ++ s

/-- A number in the width, given its sign or mark and its digits. -/
def padNumber (l : Layout) (mark digits : Octets) : Octets :=
  if l.zeros && !l.left then
    mark ++ List.replicate (l.width - mark.length - digits.length) '0' ++ digits
  else l.pad (mark ++ digits)

/-- An integer in the width, given its sign or mark and its digits. -/
def integer (l : Layout) (mark digits : Octets) : Octets :=
  match l.precision with
  | some least =>
    let digits := if least = 0 ∧ digits = ['0'] then [] else digits
    l.pad (mark ++ List.replicate (least - digits.length) '0' ++ digits)
  | none => l.padNumber mark digits

/-- The sign that is shown. -/
def sign (l : Layout) (negative : Bool) : Octets :=
  if negative then ['-'] else if l.plus then ['+'] else if l.blank then [' '] else []

end Layout

/-- Complains about an argument unless all of it is a number. -/
def check (p : Printed) (argument rest : Octets) (overflows : Bool) : Printed :=
  let complain (message : String) : Printed := p.complain (argument ++ message.toList)
  if !rest.isEmpty then
    complain (if rest == argument then ": expected numeric value" else ": not completely converted")
  else if overflows then complain ": Numerical result out of range"
  else p

/-- The number of the character after a quote. -/
def quotedNumber? : Octets → Option Nat
  | '\x22' :: rest | '\'' :: rest => some ((rest.head?.map (·.toNat)).getD 0)
  | _ => none

/-- The integer of an argument, with complaints. -/
def integerOf (p : Printed) (argument : Octets) (signed : Bool) : Int × Printed :=
  match quotedNumber? argument with
  | some n => (n, p)
  | none =>
    let n := if signed then Numeral.signed false argument else Numeral.unsigned argument
    (n.value, check p argument n.rest n.overflows)

/-- The fraction of an argument, with complaints. -/
def fractionOf (p : Printed) (argument : Octets) : Text.Binary64 × Printed :=
  match quotedNumber? argument with
  | some n => (.ofNat n, p)
  | none =>
    let (x, rest, overflows) := Text.Binary64.read argument
    (x, check p argument rest overflows)

/-- The digits of a number in a base. -/
def digitsIn (base n : Nat) (capital : Bool) : Octets :=
  let digits := Nat.toDigits base n
  if capital then digits.map Char.toUpper else digits

/-- How a letter shows a fraction. -/
def fractionStyle? (letter : Char) : Option Text.Binary64.Style :=
  match letter.toLower with
  | 'f' => some .positional
  | 'e' => some .scientific
  | 'g' => some .general
  | 'a' => some .hexadecimal
  | _ => none

/-- One conversion of an argument; `none` if the letter is no conversion. The flag tells whether the
output ends here. -/
def convert (l : Layout) (letter : Char) (argument : Octets) (p : Printed) :
    Option (Printed × Bool) :=
  let inBase (base : Nat) (mark : Octets) (capital : Bool) : Option (Printed × Bool) :=
    let (n, p) := integerOf p argument false
    let digits := digitsIn base n.toNat capital
    let mark := if l.alternate && n != 0 then mark else []
    some (p.write (l.integer mark digits), false)
  match letter with
  | 's' =>
    let s := match l.precision with
      | some most => argument.take most
      | none => argument
    some (p.write (l.pad s), false)
  | 'b' =>
    let (s, ended) := unescaped argument
    let s := match l.precision with
      | some most => s.take most
      | none => s
    some (p.write (l.pad s), ended)
  | 'c' => some (p.write (l.pad [(argument.head?).getD '\x00']), false)
  | 'd' | 'i' =>
    let (n, p) := integerOf p argument true
    some (p.write (l.integer (l.sign (n < 0)) (digitsIn 10 n.natAbs false)), false)
  | 'u' => inBase 10 [] false
  | 'o' =>
    let (n, p) := integerOf p argument false
    let digits := digitsIn 8 n.toNat false
    let short := digits.length + 1
    let l := if l.alternate && digits != ['0'] && (l.precision.getD 0) < short then
        { l with precision := some short } else l
    let l := if l.alternate && digits == ['0'] then { l with precision := none } else l
    some (p.write (l.integer [] digits), false)
  | 'x' => inBase 16 ['0', 'x'] false
  | 'X' => inBase 16 ['0', 'X'] true
  | letter =>
    match fractionStyle? letter with
    | none => none
    | some style =>
      let (x, p) := fractionOf p argument
      let shown := x.shown style l.alternate l.precision
      let shown := if letter.isUpper then shown.map Char.toUpper else shown
      let l := if x.isFinite then l else { l with zeros := false }
      let (mark, body) := match style with
        | .hexadecimal => if x.isFinite then (shown.take 2, shown.drop 2) else ([], shown)
        | _ => ([], shown)
      some (p.write (l.padNumber (l.sign x.negative ++ mark) body), false)

/-! ### Formats -/

/-- A format while it is gone through. -/
structure Progress where
  printed : Printed
  arguments : List Octets
  /-- Whether an argument was taken. -/
  taken : Bool
  /-- Whether the output has ended. -/
  ended : Bool

namespace Progress

/-- Takes an argument. -/
def take (p : Progress) : Octets × Progress :=
  match p.arguments with
  | a :: rest => (a, { p with arguments := rest, taken := true })
  | [] => ([], p)

/-- Stops with a mistake. -/
def stop (p : Progress) (message : Octets) : Progress :=
  { p with printed := { p.printed with mistake := some message }, ended := true }

/-- A width or precision: digits, or a star for the next argument. -/
def size (p : Progress) (s : Octets) : Option Int × Progress × Octets :=
  match s with
  | '*' :: rest =>
    let (argument, p) := p.take
    let (n, printed) := integerOf p.printed argument true
    (some (n.bmod 4294967296), { p with printed }, rest)
  | s =>
    let digits := s.takeWhile Char.isDigit
    if digits.isEmpty then (none, p, s)
    else (some (Numeral.ofDigits 10 digits), p, s.drop digits.length)

/-- A conversion, after its percent sign, and what follows. -/
def conversion (p : Progress) (s : Octets) : Progress × Octets :=
  let (layout, rest) := ({} : Layout).flags s
  let (width, p, rest) := p.size rest
  let layout := match width with
    | some n => { layout with width := n.natAbs, left := layout.left || n < 0 }
    | none => layout
  let (precision, p, rest) := match rest with
    | '.' :: rest =>
      let (n, p, rest) := p.size rest
      let n := n.getD 0
      (if n < 0 then none else some n.toNat, p, rest)
    | rest => (none, p, rest)
  let layout := { layout with precision }
  match rest with
  | [] => (p.stop "missing format character".toList, [])
  | letter :: rest =>
    let (argument, after) := p.take
    match convert layout letter argument p.printed with
    | some (printed, ended) => ({ after with printed, ended }, rest)
    | none =>
      let shown := s.take (s.length - rest.length)
      (p.stop ('%' :: shown ++ ": invalid directive".toList), [])

/-- Goes through a format once. -/
def through : Nat → Octets → Progress → Progress
  | 0, _, p => p
  | _, [], p => p
  | n + 1, c :: rest, p =>
    if p.ended then p
    else
      match c, rest with
      | '\\', rest =>
        let (shown, rest) := formatEscape rest
        through n rest { p with printed := p.printed.write [shown] }
      | '%', '%' :: rest => through n rest { p with printed := p.printed.write ['%'] }
      | '%', rest =>
        let (p, rest) := p.conversion rest
        through n rest p
      | c, rest => through n rest { p with printed := p.printed.write [c] }

/-- Goes through a format until no argument is left. -/
def repeated (format : Octets) : Nat → Progress → Progress
  | 0, p => p
  | n + 1, p =>
    let p := through (format.length + 1) format { p with taken := false }
    if p.ended || !p.taken || p.arguments.isEmpty then p else repeated format n p

end Progress

/-- What a format shows of its arguments. -/
def print (format : Octets) (arguments : List Octets) : Printed :=
  (Progress.repeated format (arguments.length + 1)
    ⟨.empty, arguments, false, false⟩).printed

end Assay.Shell.Format
