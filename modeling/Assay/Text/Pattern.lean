/-!
# Patterns

A pattern is a sequence of atoms. An atom that is repeated matches any number of characters each of
which it matches alone; every other atom matches one character. `accepts` asks whether the whole
text matches.

`Pattern.ofWildcards` reads a pattern in which `*` stands for any text, `?` for any character, and
brackets for one of some characters.
-/

namespace Assay.Text

/-- A part of a pattern that matches one character. -/
inductive Atom where
  | char (c : Char)
  | any
  /-- A character in one of some ranges, or in none of them. -/
  | oneOf (negated : Bool) (ranges : List (Char × Char))
deriving DecidableEq, Repr

/-- A part of a pattern. -/
structure Piece where
  atom : Atom
  repeated : Bool
deriving DecidableEq, Repr

/-- A pattern. -/
abbrev Pattern := List Piece

namespace Atom

/-- Whether an atom matches a character. -/
def accepts : Atom → Char → Bool
  | char d, c => c == d
  | any, _ => true
  | oneOf negated ranges, c => (ranges.any fun (low, high) => low ≤ c && c ≤ high) != negated

end Atom

namespace Pattern

/-- The pattern that matches one text only. -/
def literal (s : List Char) : Pattern := s.map fun c => ⟨.char c, false⟩

/-- Whether the whole text matches. -/
def accepts : Pattern → List Char → Bool
  | [], s => s.isEmpty
  | ⟨atom, true⟩ :: rest, s =>
    accepts rest s ||
      match s with
      | [] => false
      | c :: s => atom.accepts c && accepts (⟨atom, true⟩ :: rest) s
  | ⟨atom, false⟩ :: rest, s =>
    match s with
    | [] => false
    | c :: s => atom.accepts c && accepts rest s
termination_by p s => p.length + s.length

/-- A text taken literally matches itself and no other. -/
theorem accepts_literal (s t : List Char) : accepts (literal s) t = true ↔ t = s := by
  induction s generalizing t with
  | nil => simp [accepts, literal]
  | cons c s ih =>
    cases t with
    | nil => simp [accepts, literal]
    | cons d t =>
      have := ih t
      simp only [literal] at this
      simp [accepts, literal, Atom.accepts, this]

end Pattern

/-- The named classes of characters. -/
def classRanges (name : String) : List (Char × Char) :=
  match name with
  | "digit" => [('0', '9')]
  | "lower" => [('a', 'z')]
  | "upper" => [('A', 'Z')]
  | "alpha" => [('a', 'z'), ('A', 'Z')]
  | "alnum" => [('a', 'z'), ('A', 'Z'), ('0', '9')]
  | "space" => [('\t', '\r'), (' ', ' ')]
  | "blank" => [('\t', '\t'), (' ', ' ')]
  | "punct" => [('!', '/'), (':', '@'), ('[', '\x60'), ('\x7b', '~')]
  | "xdigit" => [('0', '9'), ('a', 'f'), ('A', 'F')]
  | "cntrl" => [('\x00', '\x1f'), ('\x7f', '\x7f')]
  | "print" => [(' ', '~')]
  | "graph" => [('!', '~')]
  | _ => []

/-- The ranges inside brackets up to the closing one, and what follows; `none` if it is missing.
`first` tells that nothing was read yet, so that a closing bracket stands for itself. -/
def bracketRanges : Nat → (first : Bool) → List Char → Option (List (Char × Char) × List Char)
  | 0, _, _ => none
  | _, _, [] => none
  | n + 1, first, s => do
    let single (s : List Char) : Option (Char × List Char) :=
      match s with
      | '\\' :: c :: rest => some (c, rest)
      | c :: rest => some (c, rest)
      | [] => none
    match first, s with
    | false, ']' :: rest => some ([], rest)
    | _, '[' :: ':' :: rest =>
      let name := rest.takeWhile (· != ':')
      match rest.drop name.length with
      | ':' :: ']' :: rest =>
        let (ranges, after) ← bracketRanges n false rest
        some (classRanges (String.ofList name) ++ ranges, after)
      | _ => none
    | _, s =>
      let (low, rest) ← single s
      let (high, rest) ← match rest with
        | '-' :: c :: more => if c = ']' then some (low, rest) else single (c :: more)
        | rest => some (low, rest)
      let (ranges, after) ← bracketRanges n false rest
      some ((low, high) :: ranges, after)

/-- The atom of brackets, after the opening one, and what follows. -/
def bracketAtom (s : List Char) : Option (Atom × List Char) :=
  let (negated, body) := match s with
    | '!' :: rest | '^' :: rest => (true, rest)
    | s => (false, s)
  (bracketRanges (body.length + 1) true body).map fun (ranges, after) =>
    (.oneOf negated ranges, after)

/-- Reads wildcards, of at most so many characters. -/
def wildcards : Nat → List Char → Pattern
  | 0, _ => []
  | _, [] => []
  | n + 1, c :: rest =>
    let one (atom : Atom) (rest : List Char) : Pattern := ⟨atom, false⟩ :: wildcards n rest
    match c, rest with
    | '*', rest => ⟨.any, true⟩ :: wildcards n rest
    | '?', rest => one .any rest
    | '\\', d :: rest => one (.char d) rest
    | '[', rest =>
      match bracketAtom rest with
      | some (atom, rest) => one atom rest
      | none => one (.char '[') rest
    | c, rest => one (.char c) rest

/-- The pattern that wildcards write. -/
def Pattern.ofWildcards (s : List Char) : Pattern := wildcards s.length s

end Assay.Text
