import Assay.Shell.Interpreter

/-!
# Options of the shell's own commands

Options are letters after a `-` in front of the other arguments. Some take a value: the rest of
their argument, or the next argument. `--` ends the options.
-/

namespace Assay.Shell.Builtin

open Text (Octets)

open Run

/-- An option that was given, with its value. -/
abbrev Given := Char × Octets

/-- Reads the letters of one argument. The letters that are allowed come with whether they take a
value. -/
def readLetters (allowed : List (Char × Bool)) : Octets → (others : List Octets) → List Given →
    Run (List Given × List Octets)
  | [], others, found => pure (found, others)
  | c :: rest, others, found => do
    match allowed.find? (·.1 == c), rest, others with
    | none, _, _ => fail (octets "Illegal option -" ++ [c])
    | some (_, false), rest, others => readLetters allowed rest others (found ++ [(c, [])])
    | some (_, true), [], [] => fail (octets "No arg for -" ++ c :: octets " option")
    | some (_, true), [], value :: others => pure (found ++ [(c, value)], others)
    | some (_, true), rest, others => pure (found ++ [(c, rest)], others)

/-- Reads options, and gives the arguments after them. -/
def readOptions (allowed : List (Char × Bool)) : Nat → List Octets → List Given →
    Run (List Given × List Octets)
  | 0, arguments, found => pure (found, arguments)
  | n + 1, arguments, found => do
    match arguments with
    | ['-', '-'] :: rest => pure (found, rest)
    | ('-' :: c :: letters) :: rest =>
      let (found, rest) ← readLetters allowed (c :: letters) rest found
      readOptions allowed n rest found
    | arguments => pure (found, arguments)

/-- The options among arguments, and the arguments after them. -/
def options (allowed : List (Char × Bool)) (arguments : List Octets) :
    Run (List Given × List Octets) :=
  readOptions allowed (arguments.length + 1) arguments []

/-- The arguments of a command without options. -/
def operands (arguments : List Octets) : Run (List Octets) := return (← options [] arguments).2

/-- Whether a letter is among the options that were given. -/
def has (given : List Given) (c : Char) : Bool := given.any (·.1 == c)

/-! ### How values are shown -/

/-- Quotes a text so that it can be read back: all but apostrophes stands between apostrophes, and
apostrophes between quotation marks. -/
def quoted (s : Octets) : Octets := quotedFrom (s.length + 1) s
where
  /-- The same, for a text of bounded length. -/
  quotedFrom : Nat → Octets → Octets
    | 0, _ => []
    | n + 1, s =>
      let before := s.takeWhile (· != '\'')
      let marks := (s.drop before.length).takeWhile (· == '\'')
      let rest := s.drop (before.length + marks.length)
      let shown := '\'' :: before ++ ['\'']
      if marks.isEmpty then shown
      else
        shown ++ '"' :: marks ++ '"' :: (if rest.isEmpty then [] else quotedFrom n rest)

/-- The place of a name in a table that is listed by the sum of the name's characters. -/
def bucket (size : Nat) (name : Octets) : Nat :=
  (name.foldl (fun n c => n + c.toNat) (((name.head?).map (·.toNat)).getD 0 * 16)) % size

/-- The entries of a table in the order in which they are listed. -/
def listed {α : Type} (size : Nat) (name : α → Octets) (entries : List α) : List α :=
  entries.mergeSort fun a b => bucket size (name a) ≤ bucket size (name b)

end Assay.Shell.Builtin
