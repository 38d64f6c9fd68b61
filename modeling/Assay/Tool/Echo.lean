import Assay.Text.Lines
import Assay.Tool.Work

/-!
# Showing arguments

`echo` shows its arguments on one line. With `-n` no newline comes after them, and with `-e` escapes
in them are replaced, until `-E` takes that back.
-/

namespace Assay.Tool.Echo

open Text (Octets)

open Work

/-- The value of a digit to the base 16. -/
def hexValue? (c : Char) : Option Nat :=
  if c.isDigit then some (c.toNat - '0'.toNat)
  else if 'a' ≤ c && c ≤ 'f' then some (c.toNat - 'a'.toNat + 10)
  else if 'A' ≤ c && c ≤ 'F' then some (c.toNat - 'A'.toNat + 10)
  else none

/-- Takes at most so many digits, and gives the number that they make. -/
def takeNumber (base : Nat) : Nat → Nat → Octets → Nat × Octets
  | 0, n, s => (n, s)
  | k + 1, n, s =>
    match s with
    | c :: rest =>
      match (hexValue? c).filter (· < base) with
      | some d => takeNumber base k (n * base + d) rest
      | none => (n, s)
    | [] => (n, [])

/-- A text of at most so many bytes with its escapes replaced, and whether the output ends there. -/
def unescape : Nat → Octets → Octets × Bool
  | 0, _ => ([], false)
  | _, [] => ([], false)
  | n + 1, '\\' :: c :: rest =>
    let simple (b : Char) : Octets × Bool :=
      let (s, ends) := unescape n rest
      (b :: s, ends)
    let numbered (value : Nat) (rest : Octets) : Octets × Bool :=
      let (s, ends) := unescape n rest
      (Char.ofNat (value % 256) :: s, ends)
    match c with
    | 'a' => simple '\x07'
    | 'b' => simple '\x08'
    | 'c' => ([], true)
    | 'e' => simple '\x1B'
    | 'f' => simple '\x0C'
    | 'n' => simple '\n'
    | 'r' => simple '\r'
    | 't' => simple '\t'
    | 'v' => simple '\x0B'
    | '\\' => simple '\\'
    | '0' =>
      let (value, rest) := takeNumber 8 3 0 rest
      numbered value rest
    | 'x' =>
      let (value, after) := takeNumber 16 2 0 rest
      if after.length < rest.length then numbered value after
      else
        let (s, ends) := unescape n rest
        ('\\' :: 'x' :: s, ends)
    | c =>
      if '1' ≤ c && c ≤ '7' then
        let (value, rest) := takeNumber 8 3 0 (c :: rest)
        numbered value rest
      else
        let (s, ends) := unescape n rest
        ('\\' :: c :: s, ends)
  | n + 1, c :: rest =>
    let (s, ends) := unescape n rest
    (c :: s, ends)

/-- Takes the options: whether a newline comes at the end, and whether escapes are replaced. -/
def options : (newline escapes : Bool) → List Octets → Bool × Bool × List Octets
  | newline, escapes, ('-' :: c :: letters) :: rest =>
    if (c :: letters).all ['n', 'e', 'E'].contains then
      options (newline && !(c :: letters).contains 'n')
        (((c :: letters).filter (· != 'n')).getLast?.map (· == 'e') |>.getD escapes) rest
    else (newline, escapes, ('-' :: c :: letters) :: rest)
  | newline, escapes, words => (newline, escapes, words)

/-- The words with their escapes replaced, up to the end of the output. -/
def unescapeAll : List Octets → List Octets × Bool
  | [] => ([], false)
  | word :: words =>
    let (s, ends) := unescape word.length word
    if ends then ([s], true)
    else
      let (rest, ends) := unescapeAll words
      (s :: rest, ends)

/-- Shows arguments. -/
def main (arguments : List Octets) : Work Nat := do
  let (newline, escapes, words) := options true false arguments
  let (words, ends) := if escapes then unescapeAll words else (words, false)
  put 1 (Text.join ' ' words ++ if newline && !ends then ['\n'] else [])
  pure 0

end Assay.Tool.Echo
