import Assay.Shell.Builtin.Option
import Assay.Shell.Field

/-!
# Reading a line

`read` takes a line from the standard input and shares its fields out among variables. The last
variable gets the rest of the line, separators included, without the blanks at its end; a single
separator at the end of what would be one field is left out too.
-/

namespace Assay.Shell.Builtin

open Kernel (Request)
open Text (Octets)

open Run

/-- A character of a line; one after a backslash separates nothing. -/
abbrev LineChar := Char × Bool

/-- Reads a line up to its newline, and tells whether that came. A backslash in front of a newline
joins the next line, unless it is read raw. -/
def readLine (raw : Bool) : Nat → (escaped : Bool) → List LineChar → Run (List LineChar × Bool)
  | 0, _, line => pure (line.reverse, false)
  | n + 1, escaped, line => do
    match ← ask (.read 0 1) with
    | .ok [b] =>
      let c := Char.ofNat b.toNat
      if c == '\x00' then readLine raw n escaped line
      else if escaped then readLine raw n false (if c == '\n' then line else (c, true) :: line)
      else if !raw && c == '\\' then readLine raw n true line
      else if c == '\n' then pure (line.reverse, true)
      else readLine raw n false ((c, false) :: line)
    | .ok _ => pure (line.reverse, false)
    | .error e =>
      if e != .interrupted then return (line.reverse, false)
      let came ← ask .takeSignals
      modify fun s => { s with pending := s.pending ++ came.filter (!s.pending.contains ·) }
      if (← get).pending.isEmpty then readLine raw n escaped line else pure (line.reverse, false)

/-- The text of some characters. -/
def lineText (line : List LineChar) : Octets := line.map (·.1)

/-- Whether a character separates fields. -/
def isSeparator (separators : Octets) (c : LineChar) : Bool := !c.2 && separators.contains c.1

/-- Whether a character is a blank that separates fields. -/
def isBlank (separators : Octets) (c : LineChar) : Bool :=
  isSeparator separators c && isBlankSeparator c.1

/-- A line without one separator and the blanks around it at its beginning. -/
def afterSeparator (separators : Octets) (line : List LineChar) : List LineChar :=
  let rest := line.dropWhile (isBlank separators)
  match rest with
  | c :: more =>
    if isSeparator separators c then more.dropWhile (isBlank separators) else rest
  | [] => []

/-- The part of a line that the last variable gets. -/
def lastField (separators : Octets) (line : List LineChar) : Octets :=
  let field := line.takeWhile (!isSeparator separators ·)
  if (afterSeparator separators (line.drop field.length)).isEmpty then lineText field
  else lineText ((line.reverse.dropWhile (isBlank separators)).reverse)

/-- Shares a line out among variables. -/
def shareOut (separators : Octets) : List Octets → List LineChar → List (Octets × Octets)
  | [], _ => []
  | [name], line => [(name, lastField separators line)]
  | name :: names, line =>
    let field := line.takeWhile (!isSeparator separators ·)
    let rest := afterSeparator separators (line.drop field.length)
    (name, lineText field) :: shareOut separators names rest

/-- The characters that a line may have. -/
def lineLimit : Nat := 1000000000

/-- Reads a line into variables. -/
def read (arguments : List Octets) : Run Nat := do
  let (given, names) ← options [('p', true), ('r', false)] arguments
  if names.isEmpty then failPlain "arg count"
  let (line, ended) ← readLine (has given 'r') lineLimit false []
  let separators := (← get).separators
  (shareOut separators names (line.dropWhile (isBlank separators))).forM fun (name, value) =>
    assign name value
  pure (if ended then 0 else 1)

end Assay.Shell.Builtin
