import Assay.Shell.Field
import Assay.Text.Pattern

/-!
# Patterns of the shell

In a pattern `*` stands for any text, `?` for any character and brackets for one of several; a
character that was quoted, or follows a backslash, stands for itself.

A field that is a pattern for paths is gone through piece by piece between its slashes: a piece that
is a pattern itself is looked up in the directory that the pieces in front of it lead to.
-/

namespace Assay.Shell

open Text (Octets Atom Pattern)

/-- A character of a pattern, and whether it stands for itself. -/
abbrev PatternChar := Char × Bool

/-- The characters of a pattern. -/
def patternChars (cells : List Cell) : List PatternChar :=
  cells.filterMap fun
    | .char c quoted => some (c, quoted)
    | .mark => none

/-- The ranges of bytes from one to another one, where bytes above 127 count as negative. -/
def byteRanges (low high : Char) : List (Char × Char) :=
  let isHigh (c : Char) : Bool := 128 ≤ c.toNat
  match isHigh low, isHigh high with
  | true, false => [(low, '\xFF'), ('\x00', high)]
  | false, true => []
  | _, _ => [(low, high)]

/-- The names of the classes of characters. -/
def classNames : List String :=
  ["alnum", "cntrl", "lower", "space", "alpha", "digit", "print", "upper", "blank", "graph",
    "punct", "xdigit"]

/-- The class that stands at the beginning, after its `[`, and what follows. -/
def characterClass? (s : List PatternChar) : Option (List (Char × Char) × List PatternChar) :=
  classNames.findSome? fun name =>
    let text := (':' :: name.toList ++ [':', ']']).map (·, false)
    if text.isPrefixOf s then some (Text.classRanges name, s.drop text.length) else none

/-- The character at the beginning without a backslash in front. -/
def escapedChar : List PatternChar → Option (Char × List PatternChar)
  | ('\\', false) :: (c, _) :: rest => some (c, rest)
  | (c, _) :: rest => some (c, rest)
  | [] => none

/-- The ranges inside brackets up to the closing one, and what follows; `none` if it is missing. -/
def bracketRanges : Nat → (first : Bool) → List PatternChar →
    Option (List (Char × Char) × List PatternChar)
  | 0, _, _ => none
  | n + 1, first, s => do
    if !first && s.head? == some (']', false) then return ([], s.tail)
    let (ranges, rest) ← match s with
      | ('[', false) :: rest =>
        match characterClass? rest with
        | some found => some found
        | none => member ('[', rest)
      | s => (escapedChar s).bind member
    let (more, after) ← bracketRanges n false rest
    pure (ranges ++ more, after)
where
  /-- The range that begins with a character, and what follows. -/
  member : Char × List PatternChar → Option (List (Char × Char) × List PatternChar)
    | (low, ('-', false) :: rest) =>
      if rest.head? == some (']', false) then some ([(low, low)], ('-', false) :: rest)
      else (escapedChar rest).map fun (high, rest) => (byteRanges low high, rest)
    | (low, rest) => some ([(low, low)], rest)

/-- The atom of brackets, after the opening one, and what follows. -/
def bracketAtom? (s : List PatternChar) : Option (Atom × List PatternChar) :=
  let (negated, body) := match s with
    | ('!', false) :: rest => (true, rest)
    | s => (false, s)
  (bracketRanges (body.length + 1) true body).map fun (ranges, after) =>
    (.oneOf negated ranges, after)

/-- The pattern of characters. -/
def patternFrom : Nat → List PatternChar → Pattern
  | 0, _ => []
  | _, [] => []
  | n + 1, (c, quoted) :: rest =>
    if quoted then ⟨.char c, false⟩ :: patternFrom n rest
    else
      match c, rest with
      | '*', rest => ⟨.any, true⟩ :: patternFrom n (rest.dropWhile (· == ('*', false)))
      | '?', rest => ⟨.any, false⟩ :: patternFrom n rest
      | '[', rest =>
        match bracketAtom? rest with
        | some (atom, after) => ⟨atom, false⟩ :: patternFrom n after
        | none => ⟨.char '[', false⟩ :: patternFrom n rest
      | '\\', (d, _) :: rest => ⟨.char d, false⟩ :: patternFrom n rest
      | c, rest => ⟨.char c, false⟩ :: patternFrom n rest

/-- The pattern of a filled word. -/
def patternOf (cells : List Cell) : Pattern :=
  let chars := patternChars cells
  patternFrom (chars.length + 1) chars

/-- Whether a pattern matches a text. Of several arguments only the first is looked at. -/
def matches? (p : Pattern) (s : Octets) : Bool := p.accepts (s.takeWhile (· != argumentEnd))

/-- The length of the longest or shortest beginning that matches a pattern. -/
def matchingStart? (longest : Bool) (p : Pattern) (s : Octets) : Option Nat :=
  let lengths := List.range (s.length + 1)
  (if longest then lengths.reverse else lengths).find? fun n => matches? p (s.take n)

/-- The length of what is in front of the longest or shortest end that matches a pattern. -/
def matchingEnd? (longest : Bool) (p : Pattern) (s : Octets) : Option Nat :=
  let lengths := List.range (s.length + 1)
  (if longest then lengths else lengths.reverse).find? fun n => matches? p (s.drop n)

/-! ### Paths -/

/-- Whether a bracket is closed: something stands in it, and then a closing bracket comes. -/
def closesBracket : List PatternChar → Bool
  | ('!', false) :: rest => closes rest
  | s => closes s
where
  /-- Whether a closing bracket comes after something. -/
  closes : List PatternChar → Bool
    | ('\\', false) :: _ :: rest => rest.contains (']', false)
    | _ :: rest => rest.contains (']', false)
    | [] => false

/-- Whether a piece of a path is a pattern. -/
def isPattern : List PatternChar → Bool
  | [] => false
  | ('*', false) :: _ | ('?', false) :: _ => true
  | ('[', false) :: rest => closesBracket rest || isPattern rest
  | ('\\', false) :: _ :: rest => isPattern rest
  | _ :: rest => isPattern rest

/-- The text of a piece that is no pattern. -/
def literalText : List PatternChar → Octets
  | ('\\', false) :: (c, _) :: rest => c :: literalText rest
  | (c, _) :: rest => c :: literalText rest
  | [] => []

/-- The pieces of a path between its slashes. -/
def pathPieces (s : List PatternChar) : List (List PatternChar) :=
  s.foldr (fun c pieces =>
    if c.1 == '/' then [] :: pieces
    else
      match pieces with
      | piece :: pieces => (c :: piece) :: pieces
      | [] => [[c]]) [[]]

/-- Whether a piece may match names that begin with a dot. -/
def seesHidden (piece : List PatternChar) : Bool :=
  (literalText piece).head? == some '.'

end Assay.Shell
